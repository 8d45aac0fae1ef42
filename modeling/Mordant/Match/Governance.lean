/-
# Scope governance and session admission

`MordantScopeGovernanceRegistryV5`.  A governor appends authorization records
and never edits one; a relayer publishes an opaque session commitment together
with its nullifier; an authorized binder opens the commitment once.  Block
numbers, not timestamps, order records against commitments.
-/

import Mordant.Match.Core

namespace Mordant.Match

open Evm Foundation
open Function (update)

structure ScopeAuthorization where
  scopeCommitment : Bytes32 := 0
  controller : Address := 0
  controllerKeyId : Bytes32 := 0
  organizationId : Bytes32 := 0
  controllerEpoch : BitVec 32 := 0
  authorizationVersion : BitVec 32 := 0
  validFromBlock : ℕ := 0
  retiredAtBlock : ℕ := 0
  hardRevokedAtBlock : ℕ := 0
  nonce : BitVec 256 := 0
  /-- `exists`. -/
  isRecorded : Bool := false

structure AuthorizationRequest where
  scopeCommitment : Bytes32
  controller : Address
  controllerKeyId : Bytes32
  organizationId : Bytes32
  controllerEpoch : BitVec 32
  authorizationVersion : BitVec 32
  nonce : BitVec 256

/-- `BilateralSessionIntentV5`: what both controllers and the issuer sign before
a session exists. -/
structure SessionIntent where
  chainId : BitVec 256
  governanceRegistry : Address
  policyId : Bytes32
  policyVersion : BitVec 32
  governanceRecordA : Bytes32
  governanceRecordB : Bytes32
  controllerKeyIdA : Bytes32
  controllerKeyIdB : Bytes32
  controllerEpochA : BitVec 32
  controllerEpochB : BitVec 32
  scopeAuthorizationVersionA : BitVec 32
  scopeAuthorizationVersionB : BitVec 32
  sourceRecordCommitmentA : Bytes32
  sourceRecordCommitmentB : Bytes32
  scopeCommitmentA : Bytes32
  scopeCommitmentB : Bytes32
  issuerKeyId : Bytes32
  identityEpoch : BitVec 32
  strictAssetCommitmentA : Bytes32
  candidateAuthorized : Bool
  exactBudget : BitVec 32
  candidateBudget : BitVec 32
  sessionNonce : BitVec 256
  expiry : BitVec 64
  disclosureVersion : BitVec 32

structure InitiationSignatures where
  controllerA : Bytes
  controllerB : Bytes
  issuer : Bytes

structure SessionCommitment where
  sessionNullifier : Bytes32 := 0
  committedAt : ℕ := 0
  committedInBlock : ℕ := 0
  submitter : Address := 0
  /-- `exists`. -/
  isCommitted : Bool := false
  consumed : Bool := false

structure ResolvedSession where
  sessionCommitment : Bytes32
  sessionNullifier : Bytes32
  governanceRecordA : Bytes32
  governanceRecordB : Bytes32
  controllerA : Address
  controllerB : Address
  scopeCommitmentA : Bytes32
  scopeCommitmentB : Bytes32
  sourceRecordCommitmentA : Bytes32
  sourceRecordCommitmentB : Bytes32
  strictAssetCommitmentA : Bytes32
  issuerKeyId : Bytes32
  issuerSigner : Address
  identityEpoch : BitVec 32
  committedAt : ℕ
  committedInBlock : ℕ

/-- Storage of the registry and its immutable governor. -/
structure GovernanceState where
  governor : Address
  records : Bytes32 → ScopeAuthorization := fun _ => {}
  latestVersion : Bytes32 → ℕ := fun _ => 0
  versionRecord : Bytes32 → ℕ → Bytes32 := fun _ _ => 0
  consumedNonce : Bytes32 → BitVec 256 → Bool := fun _ _ => false
  commitments : Bytes32 → SessionCommitment := fun _ => {}
  consumedNullifier : Bytes32 → Bool := fun _ => false
  authorizedRelayer : Address → Bool := fun _ => false
  authorizedBinder : Address → Bool := fun _ => false

/-- Overwrite one entry of a nested mapping. -/
def setNested {α β γ : Type} [DecidableEq α] [DecidableEq β] (table : α → β → γ) (key : α)
    (inner : β) (value : γ) : α → β → γ :=
  update table key (update (table key) inner value)

namespace Governance

variable (crypto : Crypto) (self : Address)

/-- The constructor. -/
def construct (initialGovernor : Address) : Except MatchError GovernanceState := do
  revertIf (initialGovernor = 0) .invalidAuthorization
  pure { governor := initialGovernor }

def onlyGovernor (g : GovernanceState) (tx : Tx) : Except MatchError Unit :=
  revertIf (tx.sender ≠ g.governor) (.unauthorized tx.sender)

/-- `_recordDigest`. -/
def recordDigestOf (tx : Tx) (request : AuthorizationRequest) (validFromBlock : ℕ) : Bytes32 :=
  crypto.keccak256
    (abiEncode [crypto.keccakText "mordant.scope-authorization/3", uintWord tx.chainId,
        addressWord self, request.scopeCommitment, addressWord request.controller] ++
      abiEncode [request.controllerKeyId, request.organizationId,
        uintWord request.controllerEpoch.toNat, uintWord request.authorizationVersion.toNat,
        uintWord validFromBlock, request.nonce])

def authorize (g : GovernanceState) (tx : Tx) (request : AuthorizationRequest) :
    Except MatchError (Bytes32 × GovernanceState) := do
  onlyGovernor g tx
  revertIf (request.scopeCommitment = 0 ∨ request.controller = 0 ∨ request.controllerKeyId = 0 ∨
    request.organizationId = 0 ∨ request.controllerEpoch = 0 ∨ request.nonce = 0)
    .invalidAuthorization
  let expected ← checkedAdd 32 (g.latestVersion request.scopeCommitment) 1
  revertIf (request.authorizationVersion.toNat ≠ expected)
    (.versionNotSequential request.authorizationVersion.toNat expected)
  revertIf (g.consumedNonce request.scopeCommitment request.nonce = true)
    (.nonceConsumed request.scopeCommitment request.nonce.toNat)
  let validFromBlock := toUint64 tx.blockNumber
  let recordDigest := recordDigestOf crypto self tx request validFromBlock
  revertIf ((g.records recordDigest).isRecorded = true) (.recordExists recordDigest)
  let version := request.authorizationVersion.toNat
  pure (recordDigest,
    { g with
      consumedNonce := setNested g.consumedNonce request.scopeCommitment request.nonce true
      latestVersion := update g.latestVersion request.scopeCommitment version
      versionRecord := setNested g.versionRecord request.scopeCommitment version recordDigest
      records := update g.records recordDigest
        { scopeCommitment := request.scopeCommitment
          controller := request.controller
          controllerKeyId := request.controllerKeyId
          organizationId := request.organizationId
          controllerEpoch := request.controllerEpoch
          authorizationVersion := request.authorizationVersion
          validFromBlock := validFromBlock
          retiredAtBlock := 0
          hardRevokedAtBlock := 0
          nonce := request.nonce
          isRecorded := true } })

def retire (g : GovernanceState) (tx : Tx) (recordDigest : Bytes32) :
    Except MatchError GovernanceState := do
  onlyGovernor g tx
  let stored := g.records recordDigest
  revertIf (stored.isRecorded = false) (.unknownRecord recordDigest)
  revertIf (stored.retiredAtBlock ≠ 0) (.alreadyRetired recordDigest)
  let stored := { stored with retiredAtBlock := toUint64 tx.blockNumber }
  pure { g with records := update g.records recordDigest stored }

def emergencyRevoke (g : GovernanceState) (tx : Tx) (recordDigest : Bytes32) :
    Except MatchError GovernanceState := do
  onlyGovernor g tx
  let stored := g.records recordDigest
  revertIf (stored.isRecorded = false) (.unknownRecord recordDigest)
  revertIf (stored.hardRevokedAtBlock ≠ 0) (.alreadyHardRevoked recordDigest)
  let stored := { stored with
    hardRevokedAtBlock := toUint64 tx.blockNumber
    retiredAtBlock :=
      if stored.retiredAtBlock = 0 then toUint64 tx.blockNumber else stored.retiredAtBlock }
  pure { g with records := update g.records recordDigest stored }

def setAuthorizedRelayer (g : GovernanceState) (tx : Tx) (relayer : Address) (allowed : Bool) :
    Except MatchError GovernanceState := do
  onlyGovernor g tx
  revertIf (relayer = 0) .invalidAuthorization
  pure { g with authorizedRelayer := update g.authorizedRelayer relayer allowed }

def setAuthorizedBinder (g : GovernanceState) (tx : Tx) (binder : Address) (allowed : Bool) :
    Except MatchError GovernanceState := do
  onlyGovernor g tx
  revertIf (binder = 0) .invalidAuthorization
  pure { g with authorizedBinder := update g.authorizedBinder binder allowed }

/-- `commitSession`. The nullifier is consumed here, at admission. -/
def commitSession (g : GovernanceState) (tx : Tx) (sessionCommitment sessionNullifier : Bytes32) :
    Except MatchError GovernanceState := do
  revertIf (g.authorizedRelayer tx.sender = false) (.relayerNotAuthorized tx.sender)
  revertIf (sessionCommitment = 0 ∨ sessionNullifier = 0) .invalidIntent
  revertIf ((g.commitments sessionCommitment).isCommitted = true)
    (.commitmentExists sessionCommitment)
  revertIf (g.consumedNullifier sessionNullifier = true) (.nullifierConsumed sessionNullifier)
  pure
    { g with
      consumedNullifier := update g.consumedNullifier sessionNullifier true
      commitments := update g.commitments sessionCommitment
        { sessionNullifier := sessionNullifier
          committedAt := toUint64 tx.timestamp
          committedInBlock := toUint64 tx.blockNumber
          submitter := tx.sender
          isCommitted := true
          consumed := false } }

/-! ## Digests -/

def domainSeparator (tx : Tx) : Bytes32 :=
  crypto.domainSeparator "Mordant Bilateral Session Intent" "2" tx.chainId self

def intentTypeHash : Bytes32 := crypto.keccakText
  ("BilateralSessionIntentV5(uint256 chainId,address governanceRegistry," ++
    "bytes32 policyId,uint32 policyVersion,bytes32 governanceRecordA," ++
    "bytes32 governanceRecordB,bytes32 controllerKeyIdA,bytes32 controllerKeyIdB," ++
    "uint32 controllerEpochA,uint32 controllerEpochB," ++
    "uint32 scopeAuthorizationVersionA,uint32 scopeAuthorizationVersionB," ++
    "bytes32 sourceRecordCommitmentA,bytes32 sourceRecordCommitmentB," ++
    "bytes32 scopeCommitmentA,bytes32 scopeCommitmentB,bytes32 issuerKeyId," ++
    "uint32 identityEpoch,bytes32 strictAssetCommitmentA,bool candidateAuthorized," ++
    "uint32 exactBudget,uint32 candidateBudget,uint256 sessionNonce,uint64 expiry," ++
    "uint32 disclosureVersion)")

/-- What `intentHash` hashes last. -/
def intentText (intent : SessionIntent) : Bytes :=
  let authority := crypto.hashWords [intent.governanceRecordA, intent.governanceRecordB,
    intent.controllerKeyIdA, intent.controllerKeyIdB, uintWord intent.controllerEpochA.toNat,
    uintWord intent.controllerEpochB.toNat, uintWord intent.scopeAuthorizationVersionA.toNat,
    uintWord intent.scopeAuthorizationVersionB.toNat]
  let anchors := crypto.hashWords [intent.sourceRecordCommitmentA,
    intent.sourceRecordCommitmentB, intent.scopeCommitmentA, intent.scopeCommitmentB,
    intent.issuerKeyId, uintWord intent.identityEpoch.toNat, intent.strictAssetCommitmentA]
  let permissions := crypto.hashWords [boolWord intent.candidateAuthorized,
    uintWord intent.exactBudget.toNat, uintWord intent.candidateBudget.toNat,
    intent.sessionNonce, uintWord intent.expiry.toNat, uintWord intent.disclosureVersion.toNat]
  abiEncode [intentTypeHash crypto, intent.chainId, addressWord intent.governanceRegistry,
    intent.policyId, uintWord intent.policyVersion.toNat, authority, anchors, permissions]

def intentHash (intent : SessionIntent) : Bytes32 := crypto.keccak256 (intentText crypto intent)

def intentDigest (tx : Tx) (intent : SessionIntent) : Bytes32 :=
  crypto.typedDataHash (domainSeparator crypto self tx) (intentHash crypto intent)

/-- `sessionNullifierOf`: it excludes the salt. -/
def sessionNullifierOf (tx : Tx) (intent : SessionIntent) : Bytes32 :=
  crypto.hashWords [crypto.keccakText "mordant.session-nullifier/1", uintWord tx.chainId,
    addressWord self, intent.issuerKeyId, intent.governanceRecordA, intent.governanceRecordB,
    intent.sessionNonce]

def signatureBundleDigest (signatures : InitiationSignatures) : Bytes32 :=
  crypto.hashWords [crypto.keccakText "mordant.session-initiation-signatures/2",
    crypto.keccak256 signatures.controllerA, crypto.keccak256 signatures.controllerB,
    crypto.keccak256 signatures.issuer]

def sessionCommitmentOf (tx : Tx) (intent : SessionIntent) (signatures : InitiationSignatures)
    (salt : Bytes32) : Bytes32 :=
  crypto.hashWords [crypto.keccakText "mordant.bilateral-session-commitment/3",
    uintWord tx.chainId, addressWord self, intentHash crypto intent,
    signatureBundleDigest crypto signatures, salt]

/-! ## Reveal -/

def requireRecord (g : GovernanceState) (recordDigest : Bytes32) :
    Except MatchError ScopeAuthorization := do
  let stored := g.records recordDigest
  revertIf (stored.isRecorded = false) (.unknownRecord recordDigest)
  pure stored

/-- `_isLiveForCommitmentInBlock`: strict on both sides. -/
def isLiveForCommitmentInBlock (stored : ScopeAuthorization) (commitBlock : ℕ) : Bool :=
  if commitBlock ≤ stored.validFromBlock then false
  else if stored.retiredAtBlock ≠ 0 ∧ stored.retiredAtBlock ≤ commitBlock then false
  else true

def checkedControllers (g : GovernanceState) (intent : SessionIntent) (commitBlock : ℕ) :
    Except MatchError (Address × Address) := do
  let a ← requireRecord g intent.governanceRecordA
  let b ← requireRecord g intent.governanceRecordB
  revertIf (a.scopeCommitment = b.scopeCommitment) (.sameScope a.scopeCommitment)
  revertIf (a.organizationId = b.organizationId) (.sameOrganization a.organizationId)
  revertIf (a.controller = b.controller) (.sameController a.controller)
  revertIf (a.controllerKeyId ≠ intent.controllerKeyIdA ∨
    a.controllerEpoch ≠ intent.controllerEpochA ∨
    a.authorizationVersion ≠ intent.scopeAuthorizationVersionA ∨
    a.scopeCommitment ≠ intent.scopeCommitmentA) (.intentRecordMismatch intent.governanceRecordA)
  revertIf (b.controllerKeyId ≠ intent.controllerKeyIdB ∨
    b.controllerEpoch ≠ intent.controllerEpochB ∨
    b.authorizationVersion ≠ intent.scopeAuthorizationVersionB ∨
    b.scopeCommitment ≠ intent.scopeCommitmentB) (.intentRecordMismatch intent.governanceRecordB)
  revertIf (a.hardRevokedAtBlock ≠ 0)
    (.controllerEmergencyRevoked intent.governanceRecordA a.hardRevokedAtBlock)
  revertIf (b.hardRevokedAtBlock ≠ 0)
    (.controllerEmergencyRevoked intent.governanceRecordB b.hardRevokedAtBlock)
  revertIf (isLiveForCommitmentInBlock a commitBlock = false)
    (.recordNotStrictlyBeforeCommitment intent.governanceRecordA a.validFromBlock commitBlock)
  revertIf (isLiveForCommitmentInBlock b commitBlock = false)
    (.recordNotStrictlyBeforeCommitment intent.governanceRecordB b.validFromBlock commitBlock)
  pure (a.controller, b.controller)

def recover (digest : Bytes32) (signature : Bytes) : Except MatchError Address :=
  require .malformedSignature (crypto.recoverStrict digest signature)

def initiationSigner (tx : Tx) (intent : SessionIntent) (controllerA controllerB : Address)
    (signatures : InitiationSignatures) : Except MatchError Address := do
  let digest := intentDigest crypto self tx intent
  let recoveredA ← recover crypto digest signatures.controllerA
  revertIf (recoveredA ≠ controllerA) (.intentNotBilateral controllerA recoveredA)
  let recoveredB ← recover crypto digest signatures.controllerB
  revertIf (recoveredB ≠ controllerB) (.intentNotBilateral controllerB recoveredB)
  recover crypto digest signatures.issuer

def resolveSession (g : GovernanceState) (tx : Tx) (intent : SessionIntent) (salt : Bytes32)
    (signatures : InitiationSignatures) :
    Except MatchError (ResolvedSession × GovernanceState) := do
  revertIf (g.authorizedBinder tx.sender = false) (.unauthorized tx.sender)
  revertIf (intent.chainId.toNat ≠ tx.chainId) (.wrongChain intent.chainId.toNat tx.chainId)
  revertIf (intent.governanceRegistry ≠ self) (.wrongRegistry intent.governanceRegistry self)
  revertIf (intent.expiry.toNat < tx.timestamp) (.intentExpired intent.expiry.toNat tx.timestamp)
  let key := sessionCommitmentOf crypto self tx intent signatures salt
  let stored := g.commitments key
  revertIf (stored.isCommitted = false) (.unknownCommitment key)
  revertIf (stored.consumed = true) (.commitmentConsumed key)
  let nullifier := sessionNullifierOf crypto self tx intent
  revertIf (stored.sessionNullifier ≠ nullifier)
    (.nullifierMismatch nullifier stored.sessionNullifier)
  let (controllerA, controllerB) ← checkedControllers g intent stored.committedInBlock
  revertIf (stored.submitter = controllerA ∨ stored.submitter = controllerB)
    (.relayerIsController stored.submitter)
  let issuerSigner ← initiationSigner crypto self tx intent controllerA controllerB signatures
  pure
    ({ sessionCommitment := key
       sessionNullifier := nullifier
       governanceRecordA := intent.governanceRecordA
       governanceRecordB := intent.governanceRecordB
       controllerA := controllerA
       controllerB := controllerB
       scopeCommitmentA := intent.scopeCommitmentA
       scopeCommitmentB := intent.scopeCommitmentB
       sourceRecordCommitmentA := intent.sourceRecordCommitmentA
       sourceRecordCommitmentB := intent.sourceRecordCommitmentB
       strictAssetCommitmentA := intent.strictAssetCommitmentA
       issuerKeyId := intent.issuerKeyId
       issuerSigner := issuerSigner
       identityEpoch := intent.identityEpoch
       committedAt := stored.committedAt
       committedInBlock := stored.committedInBlock },
     { g with commitments := update g.commitments key { stored with consumed := true } })

end Governance

end Mordant.Match
