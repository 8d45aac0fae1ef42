/-
# Terms histories

`MordantTermsRegistry` keeps the versions of an anchor's terms, oldest first.  The
first one is read from the anchor; every later one is an amendment its issuer
signed.
-/

import Mordant.Identity.Factory

namespace Mordant.Identity

open Evm Foundation Match
open Function (update)

structure TermsAmendment where
  chainId : BitVec 256
  registry : Address
  anchorId : Bytes32
  assetCommitment : Bytes32
  termsCommitment : Bytes32
  supersedesTermsCommitment : Bytes32
  termsVersion : BitVec 32
  termsSchemeVersion : BitVec 16
  issuerKeyId : Bytes32
  validUntil : BitVec 64
  nonce : BitVec 256

structure AnchorTerms where
  assetCommitment : Bytes32 := 0
  currentTermsCommitment : Bytes32 := 0
  currentVersion : BitVec 32 := 0
  issuerKeyId : Bytes32 := 0
  termsSchemeVersion : BitVec 16 := 0
  anchor : Address := 0
  initialised : Bool := false
  deriving DecidableEq

/-- The event `TermsVersionAppended`. -/
structure TermsVersionAppended where
  anchorId : Bytes32
  issuerKeyId : Bytes32
  termsVersion : BitVec 32
  termsCommitment : Bytes32
  supersedesTermsCommitment : Bytes32

/-- Storage of the terms registry, and the events it emitted, which no function reads. -/
structure TermsState where
  anchorTerms : Bytes32 → AnchorTerms := fun _ => {}
  recordedTerms : Bytes32 → Bool := fun _ => false
  consumedNonce : Bytes32 → BitVec 256 → Bool := fun _ _ => false
  appended : List TermsVersionAppended := []

namespace Terms

variable (crypto : Crypto) (self : Address)

/-- The constructor. -/
def construct (registry anchorAdmission : Address) : Except IdentityError TermsState := do
  revertIf (registry = 0 ∨ anchorAdmission = 0) .invalidTermsRecord
  pure {}

def anchorIdOf (tx : Tx) (anchor : Address) : Bytes32 :=
  crypto.hashWords [crypto.keccakText "mordant.terms-anchor-id/2", uintWord tx.chainId,
    addressWord self, addressWord anchor]

/-- One getter of the anchor. -/
def read {α : Type} (answer : Option α) : Except IdentityError α :=
  require .externalCallFailed answer

/-- `initialise`, for an anchor with these getters and the factory's admissions. -/
def initialise (r : TermsState) (reads : AnchorReads) (vaultForAttestation : Bytes32 → Address)
    (tx : Tx) (anchor : Address) : Except IdentityError (Bytes32 × TermsState) := do
  revertIf (anchor = 0) .invalidTermsRecord
  let attestationDigest ← read reads.sourceAttestationDigest
  revertIf (attestationDigest = 0 ∨ vaultForAttestation attestationDigest ≠ anchor)
    (.anchorNotAdmitted anchor)
  let anchorId := anchorIdOf crypto self tx anchor
  revertIf ((r.anchorTerms anchorId).initialised = true) (.alreadyRecorded anchorId)
  let assetCommitment ← read reads.assetCommitment
  let initialTermsCommitment ← read reads.initialTermsCommitment
  let issuerKeyId ← read reads.issuerKeyId
  let termsSchemeVersion ← read reads.termsSchemeVersion
  revertIf (assetCommitment = 0 ∨ initialTermsCommitment = 0 ∨ issuerKeyId = 0 ∨
    assetCommitment = initialTermsCommitment) .invalidTermsRecord
  revertIf (r.recordedTerms initialTermsCommitment = true)
    (.alreadyRecorded initialTermsCommitment)
  let record : AnchorTerms :=
    { assetCommitment := assetCommitment
      currentTermsCommitment := initialTermsCommitment
      currentVersion := 1
      issuerKeyId := issuerKeyId
      termsSchemeVersion := termsSchemeVersion
      anchor := anchor
      initialised := true }
  pure (anchorId,
    { r with
      anchorTerms := update r.anchorTerms anchorId record
      recordedTerms := update r.recordedTerms initialTermsCommitment true
      appended := r.appended ++ [⟨anchorId, issuerKeyId, 1, initialTermsCommitment, 0⟩] })

def amendmentTypeHash : Bytes32 := crypto.keccakText
  ("TermsAmendment(uint256 chainId,address registry,bytes32 anchorId," ++
    "bytes32 assetCommitment,bytes32 termsCommitment,bytes32 supersedesTermsCommitment," ++
    "uint32 termsVersion,uint16 termsSchemeVersion,bytes32 issuerKeyId,uint64 validUntil," ++
    "uint256 nonce)")

def digest (tx : Tx) (amendment : TermsAmendment) : Bytes32 :=
  crypto.typedDataHash
    (crypto.domainSeparator "Mordant Terms Amendment" "1" tx.chainId self)
    (crypto.hashWords
      ([amendmentTypeHash crypto, amendment.chainId, addressWord amendment.registry,
          amendment.anchorId, amendment.assetCommitment, amendment.termsCommitment,
          amendment.supersedesTermsCommitment] ++
        [uintWord amendment.termsVersion.toNat, uintWord amendment.termsSchemeVersion.toNat,
          amendment.issuerKeyId, uintWord amendment.validUntil.toNat, amendment.nonce]))

def appendAmendment (r : TermsState) (issuers : IssuerState) (tx : Tx)
    (amendment : TermsAmendment) (signature : Bytes) : Except IdentityError TermsState := do
  let record := r.anchorTerms amendment.anchorId
  revertIf (record.initialised = false) (.unknownAnchor amendment.anchorId)
  revertIf (amendment.chainId.toNat ≠ tx.chainId ∨ amendment.registry ≠ self) .invalidTermsRecord
  revertIf (amendment.validUntil.toNat < tx.timestamp) .invalidTermsRecord
  revertIf (amendment.assetCommitment ≠ record.assetCommitment) .invalidTermsRecord
  revertIf (amendment.issuerKeyId ≠ record.issuerKeyId) .wrongIssuer
  let nextVersion ← checkedAdd 32 record.currentVersion.toNat 1
  revertIf (amendment.termsVersion.toNat ≠ nextVersion)
    (.notMonotonic amendment.termsVersion.toNat record.currentVersion.toNat)
  revertIf (amendment.termsSchemeVersion ≠ record.termsSchemeVersion)
    (.schemeMismatch amendment.termsSchemeVersion.toNat record.termsSchemeVersion.toNat)
  revertIf (amendment.supersedesTermsCommitment ≠ record.currentTermsCommitment)
    (.supersedesMismatch amendment.supersedesTermsCommitment record.currentTermsCommitment)
  revertIf (amendment.termsCommitment = 0 ∨ amendment.nonce = 0) .invalidTermsRecord
  revertIf (r.recordedTerms amendment.termsCommitment = true)
    (.alreadyRecorded amendment.termsCommitment)
  revertIf (r.consumedNonce amendment.issuerKeyId amendment.nonce = true) .invalidTermsRecord
  let signer ← require (Crypto.recoveryError .malformedSignature .ecdsaInvalidSignature signature)
    (crypto.recoverStrict (digest crypto self tx amendment) signature)
  -- the epoch is the constant 1, whatever epoch the issuer is at
  (IssuerRegistry.requireAuthorized issuers amendment.issuerKeyId signer 1).mapError .issuer
  let record :=
    { record with
      currentTermsCommitment := amendment.termsCommitment
      currentVersion := amendment.termsVersion }
  pure
    { r with
      anchorTerms := update r.anchorTerms amendment.anchorId record
      recordedTerms := update r.recordedTerms amendment.termsCommitment true
      consumedNonce := setNested r.consumedNonce amendment.issuerKeyId amendment.nonce true
      appended := r.appended ++ [⟨amendment.anchorId, amendment.issuerKeyId,
        amendment.termsVersion, amendment.termsCommitment, amendment.supersedesTermsCommitment⟩] }

end Terms

end Mordant.Identity
