/-
# Identities and terms on the client

The client computes the same commitments from records whose words are hexadecimal
strings and some of whose fields may be left out.  It tells a missing value with `!`,
which takes every string that is not empty for a value, the zero word included.
-/

import Mordant.Identity.ClientNormalization
import Mordant.Script.FixedHex

namespace Mordant.Identity.Client

open Evm Foundation Script

/-- A `bytes32` value of the client. -/
abbrev HexWord := FixedHex 32

/-- The fields of an identity. -/
structure StableIdentity where
  sellerNamespace : HexWord
  sellerId : HexWord
  sellerProfile : UInt8
  debtorNamespace : HexWord
  debtorId : HexWord
  debtorProfile : UInt8
  invoiceNamespace : HexWord
  invoiceId : HexWord
  invoiceProfile : UInt8
  tier : UInt8
  issueDateDays : BitVec 32

/-- The fields of a terms version. -/
structure TermsVersion where
  currencyCode : FixedHex 3
  faceValueMinor : BitVec 256
  amountExponent : UInt8
  dueDateDays : Option (BitVec 32)
  paymentScheduleDigest : Option HexWord
  termsVersion : BitVec 32
  amendmentId : Option HexWord
  supersedesTermsCommitment : Option HexWord
  relation : Option UInt8
  relatedStableAssetId : Option HexWord
  effectiveFrom : BitVec 64

def identitySchemeVersion : BitVec 16 := 3
def termsSchemeVersion : BitVec 16 := 1

def tierRegistryDocument : UInt8 := 1
def tierStrictSellerIssued : UInt8 := 2

def relationOriginal : UInt8 := 0
def relationAmendment : UInt8 := 1
def relationCancellation : UInt8 := 2

def losslessProfiles : List UInt8 := [1, 2, 3, 4, 5]

def isLossless (profile : UInt8) : Bool := profile ∈ losslessProfiles

/-- `!text`. -/
def isMissing (text : Text) : Bool := text.isEmpty

variable (cases : CaseMapping) (crypto : Crypto)

def encodeIdentity (domain : Bytes32) (identity : StableIdentity) : Except Thrown Bytes32 := do
  revertIf (identity.issueDateDays = 0) "ISSUE_DATE_REQUIRED"
  let parties := crypto.hashWords
    [identity.sellerNamespace.value, identity.sellerId.value,
      uintWord identity.sellerProfile.toNat, identity.debtorNamespace.value,
      identity.debtorId.value, uintWord identity.debtorProfile.toNat]
  let document := crypto.hashWords
    [identity.invoiceNamespace.value, identity.invoiceId.value,
      uintWord identity.invoiceProfile.toNat, uintWord identity.tier.toNat,
      uintWord identity.issueDateDays.toNat]
  pure (crypto.hashWords [domain, uintWord identitySchemeVersion.toNat, parties, document])

/-- The loop over the profiles of `strictStableAssetId`. -/
def requireLossless : List UInt8 → Except Thrown Unit
  | [] => pure ()
  | profile :: profiles => do
      revertIf (isLossless profile = false)
        ("LOSSY_PROFILE_NOT_PERMITTED:" ++ toString profile.toNat)
      requireLossless profiles

def strictStableAssetId (identity : StableIdentity) : Except Thrown Bytes32 := do
  revertIf (identity.tier ≠ tierRegistryDocument ∧ identity.tier ≠ tierStrictSellerIssued)
    "CANDIDATE_TIER_CANNOT_BIND"
  requireLossless [identity.sellerProfile, identity.debtorProfile, identity.invoiceProfile]
  encodeIdentity crypto (crypto.keccakText "mordant.strict-stable-asset-identity/3") identity

def assetCommitment (stableId : HexWord) (schemeVersion : Option (BitVec 16))
    (identityEpoch : BitVec 32) (salt : HexWord) : Except Thrown Bytes32 := do
  let schemeVersion := schemeVersion.getD identitySchemeVersion
  revertIf (schemeVersion ≠ identitySchemeVersion) "UNSUPPORTED_SCHEME_VERSION"
  revertIf (identityEpoch = 0) "IDENTITY_EPOCH_REQUIRED"
  pure (crypto.hashWords [crypto.keccakText "mordant.asset-commitment/3",
    uintWord schemeVersion.toNat, uintWord identityEpoch.toNat, stableId.value, salt.value])

def validateTerms (stableId : HexWord) (terms : TermsVersion) : Except Thrown Unit := do
  revertIf (isMissing stableId.text = true) "STABLE_ASSET_ID_REQUIRED"
  revertIf (isMissing terms.currencyCode.text = true ∨ terms.faceValueMinor = 0 ∨
    terms.termsVersion = 0 ∨ terms.effectiveFrom = 0) "INVALID_TERMS_FIELD"
  let zero : HexWord := FixedHex.zero
  let relation := terms.relation.getD relationOriginal
  let related := terms.relatedStableAssetId.getD zero
  let supersedes := terms.supersedesTermsCommitment.getD zero
  let amendmentId := terms.amendmentId.getD zero
  if relation = relationOriginal then
    revertIf (terms.termsVersion.toNat ≠ 1 ∨ supersedes.text ≠ zero.text ∨
      amendmentId.text ≠ zero.text ∨ related.text ≠ zero.text) "INVALID_RELATION"
  else if relation = relationAmendment ∨ relation = relationCancellation then do
    revertIf (terms.termsVersion.toNat < 2 ∨ supersedes.text = zero.text ∨
      related.text ≠ zero.text) "INVALID_RELATION"
    revertIf (relation = relationAmendment ∧ amendmentId.text = zero.text) "INVALID_RELATION"
  else
    revertIf (related.text = zero.text ∨
      cases.toLowerCase related.text = cases.toLowerCase stableId.text) "INVALID_RELATION"

def termsCommitment (stableId : HexWord) (terms : TermsVersion)
    (schemeVersion : Option (BitVec 16)) : Except Thrown Bytes32 := do
  let schemeVersion := schemeVersion.getD termsSchemeVersion
  revertIf (schemeVersion ≠ termsSchemeVersion) "UNSUPPORTED_SCHEME_VERSION"
  validateTerms cases stableId terms
  let zero : HexWord := FixedHex.zero
  let economics := crypto.hashWords
    [bytes3Word terms.currencyCode.value, terms.faceValueMinor,
      uintWord terms.amountExponent.toNat, uintWord (terms.dueDateDays.getD 0).toNat,
      (terms.paymentScheduleDigest.getD zero).value]
  let lineage := crypto.hashWords
    [uintWord terms.termsVersion.toNat, (terms.amendmentId.getD zero).value,
      (terms.supersedesTermsCommitment.getD zero).value,
      uintWord (terms.relation.getD relationOriginal).toNat,
      (terms.relatedStableAssetId.getD zero).value, uintWord terms.effectiveFrom.toNat]
  pure (crypto.hashWords [crypto.keccakText "mordant.asset-terms/1", uintWord schemeVersion.toNat,
    stableId.value, uintWord terms.termsVersion.toNat, economics, lineage])

end Mordant.Identity.Client
