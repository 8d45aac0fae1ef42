/-
# Identities and terms in the contracts

`MordantAssetIdentity` hashes what a receivable is into its stable identity and what
it currently says into a commitment to its terms, and commits the identity under a
salt.  Every value that takes part has to be present.
-/

import Mordant.Identity.Normalization

namespace Mordant.Identity

open Evm Foundation

/-- The authority ranking of an identifier. -/
inductive IdentityTier
  | none
  | registryDocument
  | strictSellerIssued
  | tolerantCandidate
  deriving DecidableEq

/-- How one terms version relates to what came before. -/
inductive Relation
  | original
  | amendment
  | cancellation
  | creditNote
  | replacement
  | novation
  deriving DecidableEq

/-- `uint8(tier)`. -/
def IdentityTier.toUint8 : IdentityTier → UInt8
  | none => 0
  | registryDocument => 1
  | strictSellerIssued => 2
  | tolerantCandidate => 3

/-- An argument of the enumeration, which the decoder of a call refuses out of range. -/
def IdentityTier.decode (n : UInt8) : Option IdentityTier :=
  if n = 0 then some none
  else if n = 1 then some registryDocument
  else if n = 2 then some strictSellerIssued
  else if n = 3 then some tolerantCandidate
  else Option.none

/-- `uint8(relation)`. -/
def Relation.toUint8 : Relation → UInt8
  | original => 0
  | amendment => 1
  | cancellation => 2
  | creditNote => 3
  | replacement => 4
  | novation => 5

/-- An argument of the enumeration. -/
def Relation.decode (n : UInt8) : Option Relation :=
  if n = 0 then some original
  else if n = 1 then some amendment
  else if n = 2 then some cancellation
  else if n = 3 then some creditNote
  else if n = 4 then some replacement
  else if n = 5 then some novation
  else none

structure StableAssetIdentity where
  sellerNamespace : Bytes32
  sellerId : Bytes32
  sellerProfile : UInt8
  debtorNamespace : Bytes32
  debtorId : Bytes32
  debtorProfile : UInt8
  invoiceNamespace : Bytes32
  invoiceId : Bytes32
  invoiceProfile : UInt8
  tier : IdentityTier
  issueDateDays : BitVec 32

structure AssetTermsVersion where
  currencyCode : BitVec 24
  faceValueMinor : BitVec 256
  amountExponent : UInt8
  dueDateDays : BitVec 32
  paymentScheduleDigest : Bytes32
  termsVersion : BitVec 32
  amendmentId : Bytes32
  supersedesTermsCommitment : Bytes32
  relation : Relation
  relatedStableAssetId : Bytes32
  effectiveFrom : BitVec 64

/-- The errors of the library. -/
inductive AssetIdentityError
  | invalidIdentityField
  | invalidTermsField
  | unsupportedSchemeVersion (supplied : BitVec 16)
  | invalidRelation
  | lossyProfileNotPermitted (profile : UInt8)
  | candidateTierCannotBind (tier : IdentityTier)
  deriving DecidableEq

namespace AssetIdentity

def identitySchemeVersion : BitVec 16 := 3
def termsSchemeVersion : BitVec 16 := 1

variable (crypto : Crypto)

def requireLossless (profile : UInt8) : Except AssetIdentityError Unit :=
  revertIf (Normalization.isLossless profile = false) (.lossyProfileNotPermitted profile)

def encode (domain : Bytes32) (identity : StableAssetIdentity) :
    Except AssetIdentityError Bytes32 := do
  revertIf (identity.sellerNamespace = 0 ∨ identity.sellerId = 0 ∨ identity.debtorNamespace = 0 ∨
    identity.debtorId = 0 ∨ identity.invoiceNamespace = 0 ∨ identity.invoiceId = 0 ∨
    identity.issueDateDays = 0) .invalidIdentityField
  let parties := crypto.hashWords
    [identity.sellerNamespace, identity.sellerId, uintWord identity.sellerProfile.toNat,
      identity.debtorNamespace, identity.debtorId, uintWord identity.debtorProfile.toNat]
  let document := crypto.hashWords
    [identity.invoiceNamespace, identity.invoiceId, uintWord identity.invoiceProfile.toNat,
      uintWord identity.tier.toUint8.toNat, uintWord identity.issueDateDays.toNat]
  pure (crypto.hashWords [domain, uintWord identitySchemeVersion.toNat, parties, document])

def strictStableAssetId (identity : StableAssetIdentity) : Except AssetIdentityError Bytes32 := do
  revertIf (identity.tier ≠ .registryDocument ∧ identity.tier ≠ .strictSellerIssued)
    (.candidateTierCannotBind identity.tier)
  requireLossless identity.sellerProfile
  requireLossless identity.debtorProfile
  requireLossless identity.invoiceProfile
  encode crypto (crypto.keccakText "mordant.strict-stable-asset-identity/3") identity

def assetCommitment (canonicalStableAssetId : Bytes32) (schemeVersion : BitVec 16)
    (identityEpoch : BitVec 32) (salt : Bytes32) : Except AssetIdentityError Bytes32 := do
  revertIf (schemeVersion ≠ identitySchemeVersion) (.unsupportedSchemeVersion schemeVersion)
  revertIf (canonicalStableAssetId = 0 ∨ salt = 0 ∨ identityEpoch = 0) .invalidIdentityField
  pure (crypto.hashWords [crypto.keccakText "mordant.asset-commitment/3",
    uintWord schemeVersion.toNat, uintWord identityEpoch.toNat, canonicalStableAssetId, salt])

def validateTerms (canonicalStableAssetId : Bytes32) (terms : AssetTermsVersion) :
    Except AssetIdentityError Unit := do
  revertIf (canonicalStableAssetId = 0) .invalidIdentityField
  revertIf (terms.currencyCode = 0 ∨ terms.faceValueMinor = 0 ∨ terms.termsVersion = 0 ∨
    terms.effectiveFrom = 0) .invalidTermsField
  revertIf (terms.dueDateDays ≠ 0 ∧ terms.dueDateDays.toNat < 1) .invalidTermsField
  if terms.relation = .original then
    revertIf (terms.termsVersion ≠ 1 ∨ terms.supersedesTermsCommitment ≠ 0 ∨
      terms.amendmentId ≠ 0 ∨ terms.relatedStableAssetId ≠ 0) .invalidRelation
  else if terms.relation = .amendment ∨ terms.relation = .cancellation then do
    revertIf (terms.termsVersion.toNat < 2 ∨ terms.supersedesTermsCommitment = 0 ∨
      terms.relatedStableAssetId ≠ 0) .invalidRelation
    revertIf (terms.relation = .amendment ∧ terms.amendmentId = 0) .invalidRelation
  else
    revertIf (terms.relatedStableAssetId = 0 ∨
      terms.relatedStableAssetId = canonicalStableAssetId) .invalidRelation

def termsCommitment (canonicalStableAssetId : Bytes32) (schemeVersion : BitVec 16)
    (terms : AssetTermsVersion) : Except AssetIdentityError Bytes32 := do
  revertIf (schemeVersion ≠ termsSchemeVersion) (.unsupportedSchemeVersion schemeVersion)
  validateTerms canonicalStableAssetId terms
  let economics := crypto.hashWords
    [bytes3Word terms.currencyCode, terms.faceValueMinor, uintWord terms.amountExponent.toNat,
      uintWord terms.dueDateDays.toNat, terms.paymentScheduleDigest]
  let lineage := crypto.hashWords
    [uintWord terms.termsVersion.toNat, terms.amendmentId, terms.supersedesTermsCommitment,
      uintWord terms.relation.toUint8.toNat, terms.relatedStableAssetId,
      uintWord terms.effectiveFrom.toNat]
  pure (crypto.hashWords [crypto.keccakText "mordant.asset-terms/1", uintWord schemeVersion.toNat,
    canonicalStableAssetId, uintWord terms.termsVersion.toNat, economics, lineage])

end AssetIdentity

end Mordant.Identity
