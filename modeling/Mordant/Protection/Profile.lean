/-
# Settlement profiles

A profile fixes the economics of one settlement before there is a result: who is
paid what, through which adapter, and for which case.  A plan takes its Boolean
and its identity from a governed result and everything else from the profile.
-/

import Mordant.Protection.Settlement

namespace Mordant.Protection

open Foundation Script

def settlementProfileSchema : Text := lit "mordant.settlement-profile/2"

/-- Only a profile that says this word can ever produce a plan. -/
def settlementAuthorized : Text := lit "AUTHORIZED"
def settlementNotAuthorized : Text := lit "NOT_AUTHORIZED"

/-- `CommittedCaseBinding`: the case a profile is willing to settle. -/
structure CommittedCaseBinding where
  runId : Text
  caseId : Text
  caseBindingDigest : Text
  protectionBindingDigest : Text
  releaseMode : Text

structure CommittedParticipantConfig where
  path : Text
  sha256 : Text

structure SettlementProfile where
  schemaVersion : Text
  profileId : Text
  profileVersion : ℤ
  caseBinding : CommittedCaseBinding
  participantConfig : CommittedParticipantConfig
  committedAtUnix : ℤ
  chainId : ℤ
  adapter : Hex
  settlementToken : Hex
  cviVerifier : Hex
  facility : Hex
  attestor : Hex
  holderA : Hex
  holderB : Hex
  /-- Atomic units, decimal strings. -/
  payoutA : Text
  payoutB : Text
  cureWindowSeconds : ℤ
  releaseAuthorityId : Text
  settlementAuthorization : Text

/-- `GovernedResultFacts`. Digest and run are strings a verifier was handed; that
they are hexadecimal is checked when a plan is derived. -/
structure GovernedResultFacts where
  governedResultDigest : Text
  runId : Text
  releaseAuthorityId : Text
  conflict : Bool
  caseId : Text
  caseBindingDigest : Text
  deriving DecidableEq

/-! ## Patterns -/

/-- `ADDRESS`. -/
def isAddress (text : Text) : Bool := matchesDigits isHexDigit "0x" 40 text

/-- `BYTES32`. -/
def isBytes32 (text : Text) : Bool := matchesDigits isHexDigit "0x" 64 text

/-- `SHA256_DIGEST`. -/
def isSha256Digest (text : Text) : Bool := matchesDigits isHexDigit "sha256:" 64 text

/-- `/^(0|[1-9][0-9]*)$/u`. -/
def isDecimal (text : Text) : Bool :=
  text = lit "0" || (text.all (fun unit => 48 ≤ unit && unit ≤ 57) && text ≠ [] &&
    text.head? ≠ some 48)

/-- A string that passed `BYTES32`. -/
def bytes32 (text : Text) : Option Hex :=
  if h : isBytes32 text = true then some ⟨text, matchesDigits_prefix h⟩ else none

theorem bytes32_eq_some_iff {text : Text} {value : Hex} :
    bytes32 text = some value ↔ isBytes32 text = true ∧ value.text = text := by
  unfold bytes32
  split
  case isTrue hmatches =>
      constructor
      · rintro ⟨⟩
        exact ⟨hmatches, rfl⟩
      · rintro ⟨-, rfl⟩
        rfl
  case isFalse hother => simp [hother]

/-! ## Committing -/

section

variable (runtime : Runtime) (profile : SettlementProfile)

/-- `canonicalProfile`: the order of the keys is fixed. -/
def canonicalProfile : Text :=
  let lowered (value : Text) := stringifyText (runtime.toLowerCase value)
  stringifyObject
    [("schemaVersion", stringifyText profile.schemaVersion),
      ("profileId", stringifyText profile.profileId),
      ("profileVersion", stringifyInt profile.profileVersion),
      ("caseBinding", stringifyObject
        [("runId", stringifyText profile.caseBinding.runId),
          ("caseId", lowered profile.caseBinding.caseId),
          ("caseBindingDigest", lowered profile.caseBinding.caseBindingDigest),
          ("protectionBindingDigest", lowered profile.caseBinding.protectionBindingDigest),
          ("releaseMode", stringifyText profile.caseBinding.releaseMode)]),
      ("participantConfig", stringifyObject
        [("path", stringifyText profile.participantConfig.path),
          ("sha256", lowered profile.participantConfig.sha256)]),
      ("committedAtUnix", stringifyInt profile.committedAtUnix),
      ("chainId", stringifyInt profile.chainId),
      ("adapter", lowered profile.adapter.text),
      ("settlementToken", lowered profile.settlementToken.text),
      ("cviVerifier", lowered profile.cviVerifier.text),
      ("facility", lowered profile.facility.text),
      ("attestor", lowered profile.attestor.text),
      ("holderA", lowered profile.holderA.text),
      ("holderB", lowered profile.holderB.text),
      ("payoutA", stringifyText profile.payoutA),
      ("payoutB", stringifyText profile.payoutB),
      ("cureWindowSeconds", stringifyInt profile.cureWindowSeconds),
      ("releaseAuthorityId", lowered profile.releaseAuthorityId),
      ("settlementAuthorization", stringifyText profile.settlementAuthorization)]

def settlementProfileDigest : Hex where
  text := lit "0x" ++ runtime.sha256 (lit "MordantSettlementProfile/v2" ++ [0] ++
    canonicalProfile runtime profile)
  prefixed := List.prefix_append _ _

def atomic (value : Text) (label : String) : Except SettlementThrown ℤ := do
  revertIf (isDecimal value = false)
    (.authority "PROFILE_PAYOUT_FORMAT" (label ++ " must be a decimal atomic amount"))
  require .syntaxError (bigInt value)

/-- `Number.isSafeInteger` of an integer. -/
def isSafeInteger (n : ℤ) : Bool := n.natAbs ≤ 2 ^ 53 - 1

/-- The loop over the labelled addresses of a profile. -/
def assertAddresses : List (String × Hex) → Except SettlementThrown Unit
  | [] => pure ()
  | (label, value) :: rest => do
    revertIf (isAddress value.text = false)
      (.authority "PROFILE_ADDRESS" (label ++ " must be a 20-byte address"))
    assertAddresses rest

/-- `assertWellFormedSettlementProfile`: shape only. -/
def assertWellFormedSettlementProfile : Except SettlementThrown Unit := do
  revertIf (profile.schemaVersion ≠ settlementProfileSchema)
    (.authority "PROFILE_SCHEMA" "Unrecognised settlement profile schema")
  assertAddresses
    [("adapter", profile.adapter), ("settlementToken", profile.settlementToken),
      ("cviVerifier", profile.cviVerifier), ("facility", profile.facility),
      ("attestor", profile.attestor), ("holderA", profile.holderA), ("holderB", profile.holderB)]
  let payoutA ← atomic profile.payoutA "payoutA"
  let payoutB ← atomic profile.payoutB "payoutB"
  revertIf (payoutA + payoutB = 0)
    (.authority "PROFILE_ZERO_TOTAL" "A settlement profile must commit a positive total payout")
  revertIf (payoutA = 0 ∨ payoutB = 0)
    (.authority "PROFILE_ZERO_HOLDER" "Each committed holder payout must be positive")
  revertIf (sameAddress runtime profile.holderA.text profile.holderB.text = true)
    (.authority "PROFILE_HOLDER_COLLISION" "The two committed holders must be distinct")
  revertIf (isSafeInteger profile.cureWindowSeconds = false ∨ profile.cureWindowSeconds ≤ 0)
    (.authority "PROFILE_CURE_WINDOW"
      "The committed cure window must be a positive number of seconds")
  revertIf (isBytes32 profile.releaseAuthorityId = false ∧
      isSha256Digest profile.releaseAuthorityId = false)
    (.authority "PROFILE_AUTHORITY"
      "The committed release authority must be a 32-byte identifier")
  revertIf (profile.settlementAuthorization ≠ settlementAuthorized ∧
      profile.settlementAuthorization ≠ settlementNotAuthorized)
    (.authority "PROFILE_AUTHORIZATION_MODE" "The settlement authorization mode is not recognised")

def deriveSettlementPlan (committedDigest : Hex) (result : GovernedResultFacts) :
    Except SettlementThrown SettlementPlan := do
  assertWellFormedSettlementProfile runtime profile
  revertIf (sameDigest runtime (settlementProfileDigest runtime profile).text
      committedDigest.text = false)
    (.authority "PROFILE_TAMPERED"
      "The settlement profile does not match the digest committed before result exposure")
  revertIf (profile.settlementAuthorization ≠ settlementAuthorized)
    (.authority "SETTLEMENT_NOT_AUTHORIZED"
      "This profile is published without settlement authority and can never settle")
  revertIf (sameDigest runtime profile.releaseAuthorityId result.releaseAuthorityId = false)
    (.authority "AUTHORITY_MISMATCH"
      "The governed result comes from an authority this profile did not commit to")
  revertIf (sameDigest runtime profile.caseBinding.caseId result.caseId = false)
    (.authority "CASE_MISMATCH"
      "The governed result belongs to a different case than the one committed")
  revertIf (sameDigest runtime profile.caseBinding.caseBindingDigest
      result.caseBindingDigest = false)
    (.authority "CASE_BINDING_MISMATCH"
      "The governed result carries a different case binding than the one committed")
  revertIf (result.conflict ≠ true)
    (.authority "NO_CONFLICT"
      "A governed result without a conflict cannot authorize any settlement")
  let governedResultDigest ← require
    (.authority "RESULT_DIGEST" "The governed result digest is malformed")
    (bytes32 result.governedResultDigest)
  let runId ← require (.authority "RUN_ID" "The governed run identifier is malformed")
    (bytes32 result.runId)
  pure
    { settlementProfileDigest := committedDigest
      governedResultDigest := governedResultDigest
      runId := runId
      releaseAuthorityId := profile.releaseAuthorityId
      adapter := profile.adapter
      chainId := profile.chainId
      holderA := profile.holderA
      holderB := profile.holderB
      payoutA := profile.payoutA
      payoutB := profile.payoutB
      cureWindowSeconds := profile.cureWindowSeconds }

end

/-! ## Which results a profile settles -/

/-- What the derivation compares of a result, its own shape included. The run is
not among it. -/
structure SettlementProfile.Settles (runtime : Runtime) (profile : SettlementProfile)
    (result : GovernedResultFacts) : Prop where
  authorized : profile.settlementAuthorization = settlementAuthorized
  authority : sameDigest runtime profile.releaseAuthorityId result.releaseAuthorityId = true
  case : sameDigest runtime profile.caseBinding.caseId result.caseId = true
  caseBinding : sameDigest runtime profile.caseBinding.caseBindingDigest
    result.caseBindingDigest = true
  conflict : result.conflict = true
  resultDigest : isBytes32 result.governedResultDigest = true
  runId : isBytes32 result.runId = true

section

variable {runtime : Runtime} {profile : SettlementProfile} {committedDigest : Hex}
  {result : GovernedResultFacts} {plan : SettlementPlan}

/-- A derived plan pays what the profile commits, for the result it was given. -/
structure DerivedFrom (profile : SettlementProfile) (committedDigest : Hex)
    (result : GovernedResultFacts) (plan : SettlementPlan) : Prop where
  profileDigest : plan.settlementProfileDigest = committedDigest
  resultDigest : plan.governedResultDigest.text = result.governedResultDigest
  runId : plan.runId.text = result.runId
  authority : plan.releaseAuthorityId = profile.releaseAuthorityId
  adapter : plan.adapter = profile.adapter
  chainId : plan.chainId = profile.chainId
  holders : plan.holderA = profile.holderA ∧ plan.holderB = profile.holderB
  payouts : plan.payoutA = profile.payoutA ∧ plan.payoutB = profile.payoutB
  cureWindow : plan.cureWindowSeconds = profile.cureWindowSeconds

/-- A plan is derived exactly for a committed, well-formed profile that settles the
result, and says what profile and result say. -/
theorem deriveSettlementPlan_ok_iff :
    deriveSettlementPlan runtime profile committedDigest result = .ok plan ↔
      assertWellFormedSettlementProfile runtime profile = .ok () ∧
      sameDigest runtime (settlementProfileDigest runtime profile).text
        committedDigest.text = true ∧
      profile.Settles runtime result ∧ DerivedFrom profile committedDigest result plan := by
  simp only [deriveSettlementPlan, bind_ok_iff, revertIf_ok_iff, require_ok_iff, pure_ok_iff,
    not_not, Bool.not_eq_false, bytes32_eq_some_iff]
  constructor
  · rintro ⟨_, hformed, -, hdigest, -, hauthorized, -, hauthority, -, hcase, -, hbinding, -,
      hconflict, digest, ⟨hresultDigest, hdigestText⟩, run, ⟨hrun, hrunText⟩, rfl⟩
    exact ⟨hformed, hdigest,
      ⟨hauthorized, hauthority, hcase, hbinding, hconflict, hresultDigest, hrun⟩,
      ⟨rfl, hdigestText, hrunText, rfl, rfl, rfl, ⟨rfl, rfl⟩, ⟨rfl, rfl⟩, rfl⟩⟩
  · rintro ⟨hformed, hdigest, hsettles, hderived⟩
    obtain ⟨rfl, hresultDigest, hrun, hauthority, hadapter, hchain, ⟨hholderA, hholderB⟩,
      ⟨hpayoutA, hpayoutB⟩, hcure⟩ := hderived
    refine ⟨(), hformed, (), hdigest, (), hsettles.authorized, (), hsettles.authority, (),
      hsettles.case, (), hsettles.caseBinding, (), hsettles.conflict,
      plan.governedResultDigest, ⟨hsettles.resultDigest, hresultDigest⟩, plan.runId,
      ⟨hsettles.runId, hrun⟩, ?_⟩
    rw [← hauthority, ← hadapter, ← hchain, ← hholderA, ← hholderB, ← hpayoutA, ← hpayoutB,
      ← hcure]

end

end Mordant.Protection
