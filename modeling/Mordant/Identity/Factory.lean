/-
# The factory of identity anchors

`MordantFactoryV2` admits a receivable only on parameters an authorized issuer
attested before the vault existed.  The vault is created at an address that is a
function of what the issuer signed, and four tables record what was used.
-/

import Mordant.Identity.Anchor

namespace Mordant.Identity

open Evm Foundation Match
open Function (update)

structure InvoiceConfig where
  cvaAdapter : Address
  settlementToken : Address
  invoiceRoot : Bytes32
  currency : Bytes32
  buyer : Address
  originatorTreasury : Address
  initialOriginatorSigner : Address
  initialUnits : BitVec 256
  advanceAmount : BitVec 256
  faceValue : BitVec 256
  bondBps : BitVec 16
  protectionEnd : BitVec 64
  revealPeriod : BitVec 64
  curePeriod : BitVec 64

/-- The addresses of the contracts that know each other. -/
structure Deployment where
  factory : Address
  cviVerifier : Address
  issuerRegistry : Address
  termsRegistry : Address
  sessionRegistry : Address

/-- The getters the terms registry calls, on an arbitrary account; a call can fail. -/
structure AnchorReads where
  sourceAttestationDigest : Option Bytes32
  assetCommitment : Option Bytes32
  initialTermsCommitment : Option Bytes32
  issuerKeyId : Option Bytes32
  termsSchemeVersion : Option (BitVec 16)

/-- The getters of a vault read its immutables. -/
def AnchorVault.reads (vault : AnchorVault) : AnchorReads where
  sourceAttestationDigest := some vault.identity.sourceAttestationDigest
  assetCommitment := some vault.identity.assetCommitment
  initialTermsCommitment := some vault.identity.initialTermsCommitment
  issuerKeyId := some vault.identity.issuerKeyId
  termsSchemeVersion := some vault.identity.termsSchemeVersion

/-- The contracts outside of the system, as functions of an outside world. -/
structure Externals (W : Type) where
  /-- `ICviVerifier`. -/
  isEligible : W → Address → ℕ → Bool
  /-- What a vault over this CVA adapter observes, `ICvaAdapter.asset()` in particular. -/
  vaultView : Address → Vault.Externals W
  /-- The creation code of `MordantInvoiceVaultV2`. -/
  creationCode : Bytes
  /-- An account other than a created vault has code or a nonce. -/
  isOccupied : W → Address → Bool
  /-- The getters of an account that is no created vault. -/
  anchor : W → Address → AnchorReads

/-- Storage of the factory, its `Ownable` owner included. -/
structure FactoryState where
  owner : Address
  isFacility : Address → Bool := fun _ => false
  approvedCvaAdapter : Address → Bool := fun _ => false
  approvedSettlementToken : Address → Bool := fun _ => false
  vaultForRoot : Bytes32 → Address := fun _ => 0
  rootForCva : Address → Bytes32 := fun _ => 0
  consumedNonce : Bytes32 → BitVec 256 → Bool := fun _ _ => false
  vaultForAttestation : Bytes32 → Address := fun _ => 0

/-! ## Encodings -/

/-- The 20 bytes of an address in a packed encoding. -/
def addressBytes (account : Address) : Bytes := (wordBytes (addressWord account)).drop 12

/-- `abi.encode` of the first constructor argument. -/
def initWords (init : Vault.Init) : List Bytes32 :=
  [addressWord init.factory, addressWord init.cviVerifier, addressWord init.cvaAdapter,
    addressWord init.settlementToken, init.invoiceRoot, init.currency, addressWord init.buyer,
    addressWord init.originatorTreasury, addressWord init.initialOriginatorSigner,
    init.initialUnits, init.advanceAmount, init.faceValue, uintWord init.bondBps.toNat,
    uintWord init.protectionEnd.toNat, uintWord init.revealPeriod.toNat,
    uintWord init.curePeriod.toNat]

/-- `abi.encode` of the second constructor argument. -/
def IdentityInit.words (identity : IdentityInit) : List Bytes32 :=
  [identity.assetCommitment, identity.initialTermsCommitment,
    uintWord identity.identitySchemeVersion.toNat, uintWord identity.termsSchemeVersion.toNat,
    uintWord identity.identityEpoch.toNat, identity.issuerKeyId, identity.sourceAttestationDigest]

namespace Factory

variable {W : Type} (crypto : Crypto) (env : Externals W) (d : Deployment)

/-- The constructor. -/
def construct (initialOwner : Address) : Except IdentityError FactoryState := do
  revertIf (initialOwner = 0) (.ownableInvalidOwner 0)
  revertIf (d.cviVerifier = 0 ∨ d.issuerRegistry = 0) .invalidConfiguration
  pure { owner := initialOwner }

def onlyOwner (f : FactoryState) (tx : Tx) : Except IdentityError Unit :=
  revertIf (tx.sender ≠ f.owner) (.ownableUnauthorizedAccount tx.sender)

def transferOwnership (f : FactoryState) (tx : Tx) (newOwner : Address) :
    Except IdentityError FactoryState := do
  onlyOwner f tx
  revertIf (newOwner = 0) (.ownableInvalidOwner 0)
  pure { f with owner := newOwner }

def renounceOwnership (f : FactoryState) (tx : Tx) : Except IdentityError FactoryState := do
  onlyOwner f tx
  pure { f with owner := 0 }

def setFacility (f : FactoryState) (tx : Tx) (facility : Address) (enabled : Bool) :
    Except IdentityError FactoryState := do
  onlyOwner f tx
  revertIf (facility = 0) .invalidConfiguration
  pure { f with isFacility := update f.isFacility facility enabled }

def setCvaAdapter (f : FactoryState) (tx : Tx) (adapter : Address) (enabled : Bool) :
    Except IdentityError FactoryState := do
  onlyOwner f tx
  revertIf (adapter = 0) .invalidConfiguration
  pure { f with approvedCvaAdapter := update f.approvedCvaAdapter adapter enabled }

def setSettlementToken (f : FactoryState) (tx : Tx) (token : Address) (enabled : Bool) :
    Except IdentityError FactoryState := do
  onlyOwner f tx
  revertIf (token = 0) .invalidConfiguration
  pure { f with approvedSettlementToken := update f.approvedSettlementToken token enabled }

/-- The first half of `creationDigest`. -/
def partiesWords (config : InvoiceConfig) : List Bytes32 :=
  [addressWord config.cvaAdapter, addressWord config.settlementToken, config.invoiceRoot,
    config.currency, addressWord config.buyer, addressWord config.originatorTreasury,
    addressWord config.initialOriginatorSigner]

/-- The second half of `creationDigest`. -/
def economicsWords (config : InvoiceConfig) : List Bytes32 :=
  [config.initialUnits, config.advanceAmount, config.faceValue, uintWord config.bondBps.toNat,
    uintWord config.protectionEnd.toNat, uintWord config.revealPeriod.toNat,
    uintWord config.curePeriod.toNat]

/-- What `creationDigest` hashes last. -/
def creationWords (tx : Tx) (config : InvoiceConfig) : List Bytes32 :=
  [crypto.keccakText "mordant.vault-creation-request/2", uintWord tx.chainId,
    addressWord d.factory, crypto.hashWords (partiesWords config),
    crypto.hashWords (economicsWords config)]

def creationDigest (tx : Tx) (config : InvoiceConfig) : Bytes32 :=
  crypto.hashWords (creationWords crypto d tx config)

/-- `predictVaultAddress`: the address `CREATE2` derives from salt and code. -/
def predictVaultAddress (attestationDigest : Bytes32) (initCode : Bytes) : Address :=
  (crypto.keccak256 ([0xff] ++ addressBytes d.factory ++ wordBytes attestationDigest ++
    wordBytes (crypto.keccak256 initCode))).setWidth 160

/-- The creation code with its two arguments. -/
def initCode (init : Vault.Init) (identity : IdentityInit) : Bytes :=
  env.creationCode ++ abiEncode (initWords init ++ identity.words)

/-- The first constructor argument. -/
def initOf (config : InvoiceConfig) : Vault.Init where
  factory := d.factory
  cviVerifier := d.cviVerifier
  cvaAdapter := config.cvaAdapter
  settlementToken := config.settlementToken
  invoiceRoot := config.invoiceRoot
  currency := config.currency
  buyer := config.buyer
  originatorTreasury := config.originatorTreasury
  initialOriginatorSigner := config.initialOriginatorSigner
  initialUnits := config.initialUnits
  advanceAmount := config.advanceAmount
  faceValue := config.faceValue
  bondBps := config.bondBps
  protectionEnd := config.protectionEnd
  revealPeriod := config.revealPeriod
  curePeriod := config.curePeriod

/-- The second constructor argument. -/
def identityOf (attestation : SourceAttestation) (attestationDigest : Bytes32) : IdentityInit where
  assetCommitment := attestation.assetCommitment
  initialTermsCommitment := attestation.initialTermsCommitment
  identitySchemeVersion := attestation.identitySchemeVersion
  termsSchemeVersion := attestation.termsSchemeVersion
  identityEpoch := attestation.identityEpoch
  issuerKeyId := attestation.issuerKeyId
  sourceAttestationDigest := attestationDigest

/-- What the vault under construction observes: this factory is its facility list. -/
def vaultView (f : FactoryState) (config : InvoiceConfig) : Vault.Externals W :=
  { env.vaultView config.cvaAdapter with
    isFacility := fun _ => f.isFacility
    isEligible := env.isEligible }

def validateConfig (f : FactoryState) (world : W) (config : InvoiceConfig) :
    Except IdentityError Unit := do
  revertIf (f.approvedCvaAdapter config.cvaAdapter = false ∨
    f.approvedSettlementToken config.settlementToken = false) .notApproved
  revertIf (env.isEligible world config.buyer Vault.roleBuyer = false ∨
    env.isEligible world config.initialOriginatorSigner Vault.roleOriginator = false ∨
    env.isEligible world config.originatorTreasury Vault.roleOriginator = false) .unauthorized
  revertIf (config.buyer = config.originatorTreasury ∨
    config.buyer = config.initialOriginatorSigner ∨ f.isFacility config.buyer = true ∨
    f.isFacility config.originatorTreasury = true ∨
    f.isFacility config.initialOriginatorSigner = true) .roleOverlap
  revertIf (config.cvaAdapter = 0 ∨ config.settlementToken = 0 ∨ config.invoiceRoot = 0 ∨
    f.vaultForRoot config.invoiceRoot ≠ 0) .invalidConfiguration

/-- `createIdentityAnchoredVault`, in the world and with the vaults it finds. Every
call it makes is a static one or runs the constructor, so nothing reenters it. -/
def createIdentityAnchoredVault (f : FactoryState) (vaults : Address → Option AnchorVault)
    (issuers : IssuerState) (world : W) (tx : Tx) (config : InvoiceConfig)
    (attestation : SourceAttestation) (signature : Bytes) :
    Except IdentityError (Address × AnchorVault × FactoryState) := do
  revertIf (tx.sender ≠ config.buyer) .unauthorized
  validateConfig env f world config
  let (signer, attestationDigest) ←
    (attestation.recover crypto tx signature d.factory).mapError .issuer
  (IssuerRegistry.requireAuthorized issuers attestation.issuerKeyId signer
    attestation.identityEpoch).mapError .issuer
  revertIf (attestation.identitySchemeVersion.toNat ≠ identitySchemeVersion)
    (.schemeMismatch attestation.identitySchemeVersion.toNat identitySchemeVersion)
  revertIf (attestation.termsSchemeVersion.toNat ≠ termsSchemeVersion)
    (.schemeMismatch attestation.termsSchemeVersion.toNat termsSchemeVersion)
  revertIf (f.consumedNonce attestation.issuerKeyId attestation.nonce = true)
    (.attestationReplayed attestation.issuerKeyId attestation.nonce.toNat)
  revertIf (f.vaultForAttestation attestationDigest ≠ 0)
    (.attestationReplayed attestation.issuerKeyId attestation.nonce.toNat)
  let observed := creationDigest crypto d tx config
  revertIf (observed ≠ attestation.creationDigest)
    (.creationDigestMismatch observed attestation.creationDigest)
  revertIf (attestation.invoiceRoot ≠ config.invoiceRoot) .invalidConfiguration
  revertIf (attestation.controller ≠ config.originatorTreasury) .unauthorized
  let cvaToken := (vaultView env f config).asset world
  revertIf (cvaToken = 0) .invalidConfiguration
  revertIf (f.rootForCva cvaToken ≠ 0) .alreadyBound
  let init := initOf d config
  let identity := identityOf attestation attestationDigest
  let address := predictVaultAddress crypto d attestationDigest (initCode env init identity)
  revertIf (address = 0 ∨ vaults address ≠ none ∨ env.isOccupied world address = true)
    .creationFailed
  let vault ← AnchorVault.construct (vaultView env f config) world address tx init identity
  pure (address, vault,
    { f with
      consumedNonce := setNested f.consumedNonce attestation.issuerKeyId attestation.nonce true
      vaultForRoot := update f.vaultForRoot config.invoiceRoot address
      rootForCva := update f.rootForCva cvaToken config.invoiceRoot
      vaultForAttestation := update f.vaultForAttestation attestationDigest address })

end Factory

end Mordant.Identity
