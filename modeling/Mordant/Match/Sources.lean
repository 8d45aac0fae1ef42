/-
# Issuers and source records

`MordantIssuerRegistry` makes an issuer key accountable and revocable.
`MordantSourceCommitmentRegistry` admits a source record as one opaque
commitment and opens it once, for an authorized revealer, under an issuer
signature the issuer registry accepts.
-/

import Mordant.Match.Governance

namespace Mordant.Match

open Evm Foundation
open Function (update)

/-! ## Issuers -/

structure Issuer where
  signer : Address := 0
  minEpoch : BitVec 32 := 0
  revokedAt : ℕ := 0
  registered : Bool := false

/-- Storage of the issuer registry, its `Ownable` owner included. -/
structure IssuerState where
  owner : Address
  issuers : Bytes32 → Issuer := fun _ => {}

namespace IssuerRegistry

variable (crypto : Crypto)

/-- The constructor. -/
def construct (initialOwner : Address) : Except MatchError IssuerState := do
  revertIf (initialOwner = 0) (.ownableInvalidOwner 0)
  pure { owner := initialOwner }

def onlyOwner (r : IssuerState) (tx : Tx) : Except MatchError Unit :=
  revertIf (tx.sender ≠ r.owner) (.ownableUnauthorizedAccount tx.sender)

def transferOwnership (r : IssuerState) (tx : Tx) (newOwner : Address) :
    Except MatchError IssuerState := do
  onlyOwner r tx
  revertIf (newOwner = 0) (.ownableInvalidOwner 0)
  pure { r with owner := newOwner }

def renounceOwnership (r : IssuerState) (tx : Tx) : Except MatchError IssuerState := do
  onlyOwner r tx
  pure { r with owner := 0 }

def issuerKeyIdFor (signer : Address) : Bytes32 :=
  crypto.hashWords [crypto.keccakText "mordant.identity-issuer/1", addressWord signer]

def registerIssuer (r : IssuerState) (tx : Tx) (signer : Address) (fromEpoch : BitVec 32) :
    Except MatchError IssuerState := do
  onlyOwner r tx
  revertIf (signer = 0 ∨ fromEpoch = 0) .invalidIssuer
  let keyId := issuerKeyIdFor crypto signer
  revertIf ((r.issuers keyId).registered = true) (.issuerAlreadyRegistered keyId)
  let record := { signer := signer, minEpoch := fromEpoch, revokedAt := 0, registered := true }
  pure { r with issuers := update r.issuers keyId record }

def revokeIssuer (r : IssuerState) (tx : Tx) (issuerKeyId : Bytes32) :
    Except MatchError IssuerState := do
  onlyOwner r tx
  let record := r.issuers issuerKeyId
  revertIf (record.registered = false) .invalidIssuer
  revertIf (record.revokedAt ≠ 0) (.issuerRevoked issuerKeyId)
  let record := { record with revokedAt := toUint64 tx.timestamp }
  pure { r with issuers := update r.issuers issuerKeyId record }

def advanceEpoch (r : IssuerState) (tx : Tx) (issuerKeyId : Bytes32) (epoch : BitVec 32) :
    Except MatchError IssuerState := do
  onlyOwner r tx
  let record := r.issuers issuerKeyId
  revertIf (record.registered = false ∨ record.revokedAt ≠ 0) .invalidIssuer
  revertIf (epoch ≤ record.minEpoch) .invalidIssuer
  let record := { record with minEpoch := epoch }
  pure { r with issuers := update r.issuers issuerKeyId record }

def requireAuthorized (r : IssuerState) (issuerKeyId : Bytes32) (signer : Address)
    (identityEpoch : BitVec 32) : Except MatchError Unit := do
  let record := r.issuers issuerKeyId
  revertIf (record.registered = false ∨ record.signer ≠ signer) .invalidIssuer
  revertIf (record.revokedAt ≠ 0) (.issuerRevoked issuerKeyId)
  revertIf (identityEpoch < record.minEpoch) .invalidIssuer

end IssuerRegistry

/-! ## Source attestations -/

/-- `SourceAssetAttestation`. -/
structure SourceAttestation where
  chainId : BitVec 256
  factory : Address
  creationDigest : Bytes32
  assetCommitment : Bytes32
  initialTermsCommitment : Bytes32
  identitySchemeVersion : BitVec 16
  termsSchemeVersion : BitVec 16
  identityEpoch : BitVec 32
  issuerKeyId : Bytes32
  invoiceRoot : Bytes32
  controller : Address
  validUntil : BitVec 64
  nonce : BitVec 256

namespace SourceAttestation

variable (crypto : Crypto)

/-- `ATTESTATION_TYPEHASH`. -/
def typeHash : Bytes32 := crypto.keccakText
  ("SourceAssetAttestation(uint256 chainId,address factory,bytes32 creationDigest," ++
    "bytes32 assetCommitment,bytes32 initialTermsCommitment," ++
    "uint16 identitySchemeVersion,uint16 termsSchemeVersion,uint32 identityEpoch," ++
    "bytes32 issuerKeyId,bytes32 invoiceRoot,address controller,uint64 validUntil," ++
    "uint256 nonce)")

/-- The words of the structure hash. -/
def words (attestation : SourceAttestation) : List Bytes32 :=
  [typeHash crypto, attestation.chainId, addressWord attestation.factory,
    attestation.creationDigest, attestation.assetCommitment, attestation.initialTermsCommitment,
    uintWord attestation.identitySchemeVersion.toNat,
    uintWord attestation.termsSchemeVersion.toNat, uintWord attestation.identityEpoch.toNat,
    attestation.issuerKeyId, attestation.invoiceRoot, addressWord attestation.controller,
    uintWord attestation.validUntil.toNat, attestation.nonce]

def structHash (attestation : SourceAttestation) : Bytes32 :=
  crypto.hashWords (attestation.words crypto)

def digest (tx : Tx) (attestation : SourceAttestation) (verifyingContract : Address) : Bytes32 :=
  crypto.typedDataHash
    (crypto.domainSeparator "Mordant Source Attestation" "1" tx.chainId verifyingContract)
    (attestation.structHash crypto)

/-- `recover`: scope and freshness first, then the signer and the digest. -/
def recover (tx : Tx) (attestation : SourceAttestation) (signature : Bytes)
    (verifyingContract : Address) : Except MatchError (Address × Bytes32) := do
  revertIf (attestation.assetCommitment = 0 ∨ attestation.creationDigest = 0 ∨
    attestation.initialTermsCommitment = 0 ∨
    attestation.assetCommitment = attestation.initialTermsCommitment ∨
    attestation.issuerKeyId = 0 ∨ attestation.invoiceRoot = 0 ∨ attestation.controller = 0 ∨
    attestation.identityEpoch = 0 ∨ attestation.nonce = 0) .invalidAttestation
  revertIf (attestation.chainId.toNat ≠ tx.chainId)
    (.wrongChain attestation.chainId.toNat tx.chainId)
  revertIf (attestation.factory ≠ verifyingContract)
    (.wrongFactory attestation.factory verifyingContract)
  revertIf (attestation.validUntil.toNat < tx.timestamp)
    (.attestationExpired attestation.validUntil.toNat tx.timestamp)
  revertIf (attestation.invoiceRoot = attestation.assetCommitment) .invalidAttestation
  let attestationDigest := attestation.digest crypto tx verifyingContract
  let signer ← require (Crypto.recoveryError .malformedSignature .ecdsaInvalidSignature signature)
    (crypto.recoverStrict attestationDigest signature)
  pure (signer, attestationDigest)

end SourceAttestation

/-! ## Source commitments -/

def identitySchemeVersion : ℕ := 3

def termsSchemeVersion : ℕ := 1

structure SourceCommitment where
  committedAt : ℕ := 0
  committedInBlock : ℕ := 0
  submitter : Address := 0
  /-- `exists`. -/
  isCommitted : Bool := false
  revealed : Bool := false

/-- What is fixed when a source is committed. -/
def SourceCommitment.stamp (c : SourceCommitment) : Bool × ℕ := (c.isCommitted, c.committedInBlock)

structure RevealedSource where
  sourceRecordCommitment : Bytes32
  attestationDigest : Bytes32
  assetCommitment : Bytes32
  initialTermsCommitment : Bytes32
  issuerKeyId : Bytes32
  issuerSigner : Address
  controller : Address
  identitySchemeVersion : BitVec 16
  termsSchemeVersion : BitVec 16
  identityEpoch : BitVec 32
  committedAt : ℕ
  committedInBlock : ℕ

/-- Storage of the source registry and its immutable governor. -/
structure SourceState where
  governor : Address
  commitments : Bytes32 → SourceCommitment := fun _ => {}
  authorizedSubmitter : Address → Bool := fun _ => false
  authorizedRevealer : Address → Bool := fun _ => false
  consumedNonce : Bytes32 → BitVec 256 → Bool := fun _ _ => false

namespace Sources

variable (crypto : Crypto) (self : Address)

/-- The constructor. -/
def construct (initialGovernor issuerRegistry : Address) : Except MatchError SourceState := do
  revertIf (initialGovernor = 0 ∨ issuerRegistry = 0) .invalidConfiguration
  pure { governor := initialGovernor }

def onlyGovernor (r : SourceState) (tx : Tx) : Except MatchError Unit :=
  revertIf (tx.sender ≠ r.governor) (.unauthorized tx.sender)

def setAuthorizedSubmitter (r : SourceState) (tx : Tx) (submitter : Address) (allowed : Bool) :
    Except MatchError SourceState := do
  onlyGovernor r tx
  revertIf (submitter = 0) .invalidConfiguration
  pure { r with authorizedSubmitter := update r.authorizedSubmitter submitter allowed }

def setAuthorizedRevealer (r : SourceState) (tx : Tx) (revealer : Address) (allowed : Bool) :
    Except MatchError SourceState := do
  onlyGovernor r tx
  revertIf (revealer = 0) .invalidConfiguration
  pure { r with authorizedRevealer := update r.authorizedRevealer revealer allowed }

def sourceCommitmentOf (tx : Tx) (attestation : SourceAttestation) (issuerSignature : Bytes)
    (salt : Bytes32) : Bytes32 :=
  crypto.hashWords [crypto.keccakText "mordant.source-record-commitment/1", uintWord tx.chainId,
    addressWord self, attestation.structHash crypto, crypto.keccak256 issuerSignature, salt]

def commitSource (r : SourceState) (tx : Tx) (sourceRecordCommitment : Bytes32) :
    Except MatchError SourceState := do
  revertIf (r.authorizedSubmitter tx.sender = false) (.submitterNotAuthorized tx.sender)
  revertIf (sourceRecordCommitment = 0) .invalidConfiguration
  revertIf ((r.commitments sourceRecordCommitment).isCommitted = true)
    (.commitmentExists sourceRecordCommitment)
  let stored : SourceCommitment :=
    { committedAt := toUint64 tx.timestamp
      committedInBlock := toUint64 tx.blockNumber
      submitter := tx.sender
      isCommitted := true
      revealed := false }
  pure { r with commitments := update r.commitments sourceRecordCommitment stored }

def revealSource (r : SourceState) (issuers : IssuerState) (tx : Tx)
    (attestation : SourceAttestation) (issuerSignature : Bytes) (salt : Bytes32) :
    Except MatchError (RevealedSource × SourceState) := do
  revertIf (r.authorizedRevealer tx.sender = false) (.unauthorized tx.sender)
  let key := sourceCommitmentOf crypto self tx attestation issuerSignature salt
  let stored := r.commitments key
  revertIf (stored.isCommitted = false) (.unknownCommitment key)
  revertIf (stored.revealed = true) (.commitmentAlreadyRevealed key)
  revertIf (attestation.identitySchemeVersion.toNat ≠ identitySchemeVersion)
    (.schemeMismatch attestation.identitySchemeVersion.toNat identitySchemeVersion)
  revertIf (attestation.termsSchemeVersion.toNat ≠ termsSchemeVersion)
    (.schemeMismatch attestation.termsSchemeVersion.toNat termsSchemeVersion)
  revertIf (attestation.validUntil.toNat < tx.timestamp)
    (.attestationExpired attestation.validUntil.toNat tx.timestamp)
  revertIf (r.consumedNonce attestation.issuerKeyId attestation.nonce = true)
    (.nonceConsumed attestation.issuerKeyId attestation.nonce.toNat)
  let (signer, attestationDigest) ← attestation.recover crypto tx issuerSignature self
  IssuerRegistry.requireAuthorized issuers attestation.issuerKeyId signer
    attestation.identityEpoch
  revertIf (stored.submitter = attestation.controller)
    (.submitterIsTheSourceController stored.submitter)
  pure
    ({ sourceRecordCommitment := key
       attestationDigest := attestationDigest
       assetCommitment := attestation.assetCommitment
       initialTermsCommitment := attestation.initialTermsCommitment
       issuerKeyId := attestation.issuerKeyId
       issuerSigner := signer
       controller := attestation.controller
       identitySchemeVersion := attestation.identitySchemeVersion
       termsSchemeVersion := attestation.termsSchemeVersion
       identityEpoch := attestation.identityEpoch
       committedAt := stored.committedAt
       committedInBlock := stored.committedInBlock },
     { r with
       commitments := update r.commitments key { stored with revealed := true }
       consumedNonce := setNested r.consumedNonce attestation.issuerKeyId attestation.nonce true })

end Sources

end Mordant.Match
