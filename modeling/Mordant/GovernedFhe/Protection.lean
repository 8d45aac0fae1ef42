/-
# The protection of a case

Both participants sign what is protected: an asset, an amount, the reserve behind it and
the holders it is divided among.  Everything but the asset, the record date and the nonce
of the case is fixed.
-/

import Mordant.GovernedFhe.Loading

namespace Mordant.GovernedFhe

open Evm Foundation
open Coalition (Digest)

/-! ## Constants -/

def protectionBindingSchema : String := "mordant.protection-binding/1"
def protectionBindingSchemaV2 : String := "mordant.protection-binding/2"
def executionVariantCustomSupervised : String := "CUSTOM_SUPERVISED"
def protectionService : String := "Conflicting Pledge Protection"
def protectionServiceVersion : BitVec 32 := 1
def protectionPolicyVersion : BitVec 32 := 1
def protectionFixtureClass : String := "SYNTHETIC_HACKATHON_FIXTURE"
def mvpReserveBasisPoints : BitVec 32 := 1000

/-- The two holders among whom the amount is divided. -/
def fixedHolders : List ProductHolderAllocation :=
  [⟨"HOLDER_A", "60000000", 6000⟩, ⟨"HOLDER_B", "40000000", 4000⟩]

section

variable (library : Library) (parseTime : String → Option ℤ)

/-! ## The binding -/

def digestDomainCanonical (domain : String) (document : Document) (value : document.Value) :
    Digest :=
  library.sha256 (canonicalMessage library domain document value)

def protectionPolicyID : Digest :=
  digestDomainCanonical library "MordantConflictingPledgePolicy/v1" .protectionPolicy
    ⟨protectionPolicyVersion, protectionService, protectionServiceVersion⟩

def protectionHolderAllocationDigest (binding : MordantProtectionBinding) : Digest :=
  digestDomainCanonical library "MordantProtectedHolderSnapshot/v1" .protectedHolders
    ⟨binding.cleanverseAssetRecordDigest, binding.holderSnapshot, binding.holderRecordDate⟩

def protectionFHECaseID (binding : MordantProtectionBinding) (allocation : Digest) : Digest :=
  if binding.schemaVersion = protectionBindingSchemaV2 then
    digestDomainCanonical library "MordantProtectionFHECase/v2" .protectionVariantCase
      ⟨binding.cleanverseAssetRecordDigest, binding.caseNonce, allocation, binding.policyID,
        binding.executionVariant⟩
  else
    digestDomainCanonical library "MordantProtectionFHECase/v1" .protectionCase
      ⟨binding.cleanverseAssetRecordDigest, binding.caseNonce, allocation, binding.policyID,
        binding.productScenario⟩

/-- One of the two shapes, and nothing of the other. -/
def validShape (binding : MordantProtectionBinding) : Bool :=
  if binding.schemaVersion = protectionBindingSchema then
    (binding.productScenario = "conflict" || binding.productScenario = "no-conflict") &&
      binding.executionVariant = ""
  else if binding.schemaVersion = protectionBindingSchemaV2 then
    binding.executionVariant = executionVariantCustomSupervised && binding.productScenario = ""
  else false

def MordantProtectionBinding.validate (binding : MordantProtectionBinding) :
    Except Thrown Unit := do
  let allocation := protectionHolderAllocationDigest library binding
  revertIf (validShape binding = false) (thrown .binding)
  revertIf (binding.protectionService ≠ GovernedFhe.protectionService ∨
      binding.protectionServiceVersion ≠ GovernedFhe.protectionServiceVersion ∨
      binding.policyID ≠ protectionPolicyID library ∨
      binding.policyVersion ≠ protectionPolicyVersion ∨
      binding.fixtureClassification ≠ protectionFixtureClass ∨
      binding.protectedAmount ≠ ⟨"aUSDC", "100000000"⟩ ∨
      binding.reserveBasisPoints ≠ mvpReserveBasisPoints ∨
      binding.reserveAmount ≠ ⟨"aUSDC", "10000000"⟩ ∨ binding.holderSnapshot ≠ fixedHolders ∨
      binding.holderAllocationDigest ≠ allocation ∨
      binding.fheCaseID ≠ protectionFHECaseID library binding allocation ∨
      knownReleaseMode binding.governedReleaseMode = false ∨
      binding.cleanverseAssetRecordDigest = 0 ∨ binding.policyID = 0 ∨
      binding.holderAllocationDigest = 0 ∨ binding.caseNonce = 0 ∨ binding.fheCaseID = 0)
    (thrown .binding)
  revertIf ((parseTime binding.holderRecordDate).any (0 < ·) = false) (thrown .binding)

def bindingMatchesFHE (binding : MordantProtectionBinding) (fheBinding : FHECaseBinding) : Bool :=
  binding.cleanverseAssetRecordDigest = fheBinding.assetIdentity &&
    binding.policyID = fheBinding.policyID && binding.policyVersion = fheBinding.policyVersion &&
    binding.fheCaseID = fheBinding.caseID && binding.caseNonce = fheBinding.caseNonce &&
    binding.governedReleaseMode = fheBinding.releaseMode

/-! ## The two signatures -/

/-- `ProtectionAuthorization`; its signatures are checked and not read again. -/
structure ProtectionAuthorization where
  binding : MordantProtectionBinding
  digest : Digest

def verifyProtectionSignature (signature : ProtectionBindingSignature)
    (identity : ParticipantIdentity) (digest : Digest) : Except Thrown Unit := do
  revertIf (signature.role ≠ identity.role ∨ signature.participantID ≠ identity.id ∨
      signature.protectionBindingDigest ≠ digest)
    (thrown .binding)
  verifyCanonical library identity.signingPublicKey "MordantProtectionBindingSignature/v1"
    .protectionStatement signature.toProtectionBindingStatement signature.signature

def loadProtectionAuthorization (seen : PublicObject → Option Bytes)
    (fheBinding : FHECaseBinding) : Except Thrown ProtectionAuthorization :=
  (do
    let (binding, _) ← readJSON library .protectionBinding (seen .protectionBinding)
    binding.validate library parseTime
    revertIf (bindingMatchesFHE binding fheBinding = false) (thrown .binding)
    let digest := digestCanonical library .protectionBinding binding
    let (signatureA, _) ← readJSON library .protectionSignature (seen (.protectionSignature .a))
    let (signatureB, _) ← readJSON library .protectionSignature (seen (.protectionSignature .b))
    verifyProtectionSignature library signatureA fheBinding.participantA digest
    verifyProtectionSignature library signatureB fheBinding.participantB digest
    pure ⟨binding, digest⟩ : Except Thrown ProtectionAuthorization).mapError
    fun _ => thrown .binding

end

end Mordant.GovernedFhe
