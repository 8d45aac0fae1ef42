/-
# The payload of a governed release

A verified governed result is encoded into the typed data the adapter consumes.  The
encoding is pure: it reconciles the result with what the adapter pins, and applies
the payout rule of both outcomes, before anything is signed.
-/

import Mathlib.Data.Rat.Defs
import Mordant.Protection.ProfileStore
import Mordant.Script.Json

namespace Mordant.Protection

open Foundation Script

/-- What the preparation of a payload throws, by the module that throws it. -/
inductive PrepareThrown
  | execution (code message : String)
  | compatibility (code message : String)
  | governedBridge (code message : String)
  | authorization (code : String) (status : ℕ) (message : String)
  /-- A read that was refused, or a library call that throws. -/
  | rejected
  deriving DecidableEq

/-- A value `encodeAbiParameters` is given. -/
inductive AbiValue
  | bytes32 (value : Hex)
  | address (value : Hex)
  | uint (value : ℤ)
  | bool (value : Bool)

/-- What the bridge's libraries supply. -/
structure BridgeRuntime extends StoreRuntime where
  /-- `keccak256` of a hexadecimal string's bytes. -/
  keccakHex : Hex → Hex
  /-- `encodeAbiParameters`, which throws where a value is not one of its type. -/
  encodeAbiParameters : List AbiValue → Option Hex
  /-- `hashTypedData` of the payload's domain, types and message, which throws likewise. -/
  hashTypedData : GovernedBridgePayload → Option Hex

structure VerifiedGovernedRelease where
  runId : Text
  fheCaseId : Text
  caseBindingDigest : Text
  assetIdentity : Text
  governedResultDigest : Text
  resultCiphertextDigest : Text
  participantArtifactDigestA : Text
  participantArtifactDigestB : Text
  circuitDigest : Text
  parameterFingerprint : Text
  releaseAuthorityId : Text
  releaseMode : Text
  /-- The signed Boolean. -/
  conflict : Bool

structure BridgeParticipants where
  holderA : Hex
  holderB : Hex
  payoutA : ℤ
  payoutB : ℤ

structure AdapterPins where
  address : Hex
  chainId : ℤ
  assetIdentityDigest : Hex
  releaseAuthorityId : Hex
  releaseMode : Hex
  circuitHash : Hex
  parameterFingerprint : Hex

/-- `AUTHORITY_INTERPRETATIONS`. -/
inductive AuthorityInterpretation
  | pinsGovernedAuthority
  | pinsSeparateBridgeAttestor
  deriving DecidableEq

def releaseTypeString : Text :=
  lit ("GovernedRelease(bytes32 runId,bytes32 fheCaseId,bytes32 caseBindingDigest," ++
    "bytes32 assetIdentityDigest,bytes32 governedResultDigest,bytes32 resultCiphertextDigest," ++
    "bytes32 participantArtifactDigestA,bytes32 participantArtifactDigestB,address holderA," ++
    "address holderB,uint256 payoutA,uint256 payoutB,bool conflict,bytes32 releaseAuthorityId," ++
    "bytes32 releaseMode,bytes32 circuitHash,bytes32 parameterFingerprint,uint256 nonce," ++
    "uint64 issuedAt,uint64 expiry)")

def supersededAdapterAddress : Text := lit "0x27677c837287b060D285d5C90096f06fBe675938"

/-- The digits of a digest, when they are 32 bytes. -/
def isDigestDigits (text : Text) : Bool := matchesDigits isLowerHexDigit "" 64 text

def digestToBytes32 (digest : Text) : Except PrepareThrown Hex :=
  let digits := digest.drop 7
  if isDigestDigits digits = true then .ok ⟨lit "0x" ++ digits, List.prefix_append _ _⟩
  else .error (.authorization "DIGEST" 500 "A 32-byte digest is required")

/-- `BigInt` of a number that is a safe integer. -/
def bigIntOf : Number → ℤ
  | .finite value => value.num
  | _ => 0

/-- A safe integer is the number of its value. -/
theorem ofInt_bigIntOf {n : Number} (h : n.isSafeInteger = true) : .ofInt (bigIntOf n) = n := by
  cases n with
  | nan => exact nomatch h
  | infinite negative => exact nomatch h
  | finite value =>
      have hden : value.den = 1 := by
        simp only [Number.isSafeInteger, Bool.and_eq_true, decide_eq_true_eq] at h
        exact h.1
      exact congrArg Number.finite (Rat.coe_int_num_of_den_eq_one hden)

theorem bigIntOf_ofInt (n : ℤ) : bigIntOf (.ofInt n) = n := Rat.num_intCast n

theorem isSafeInteger_ofInt {n : ℤ} : (Number.ofInt n).isSafeInteger = true ↔
    n.natAbs ≤ Number.maxSafeInteger.natAbs := by
  simp only [Number.isSafeInteger, Number.ofInt, Rat.den_intCast, Rat.num_intCast,
    Bool.and_eq_true, decide_true, true_and]
  exact decide_eq_true_iff

theorem le_ofInt {n m : ℤ} : (Number.ofInt n).le (.ofInt m) = true ↔ n ≤ m := by
  simp only [Number.le, Number.ofInt, decide_eq_true_eq]
  exact Rat.intCast_le_intCast

section

variable (runtime : BridgeRuntime)

/-- One comparison of `reconcileAdapter`. -/
def pinProblem (pin expected : Hex) (problem : String) : List String :=
  if runtime.toLowerCase pin.text = expected.text then [] else [problem]

/-- `reconcileAdapter`: every mismatch, in order. -/
def reconcileAdapter (release : VerifiedGovernedRelease) (pins : AdapterPins)
    (interpretation : AuthorityInterpretation) : Except PrepareThrown (List String) := do
  let asset ← digestToBytes32 release.assetIdentity
  let circuit ← digestToBytes32 release.circuitDigest
  let parameters ← digestToBytes32 release.parameterFingerprint
  let authority ←
    if interpretation = .pinsGovernedAuthority then do
      let expected ← digestToBytes32 release.releaseAuthorityId
      pure (pinProblem runtime pins.releaseAuthorityId expected
        ("releaseAuthorityId: the adapter does not pin the governed Ed25519 " ++
          "release authority"))
    else pure []
  pure (
    pinProblem runtime pins.assetIdentityDigest asset
      "assetIdentityDigest: the adapter is pinned to a different receivable" ++
    pinProblem runtime pins.releaseMode (runtime.keccakText release.releaseMode)
      "releaseMode: the adapter pin is not keccak of the governed release mode" ++
    pinProblem runtime pins.circuitHash circuit
      "circuitHash: the adapter pin is not the governed content-derived circuit digest" ++
    pinProblem runtime pins.parameterFingerprint parameters
      ("parameterFingerprint: the adapter pin is not the governed content-derived " ++
        "fingerprint") ++
    authority ++
    (if sameAddress runtime.toRuntime pins.address.text supersededAdapterAddress = true then
      ["address: this is the superseded adapter and must not be used"] else []))

structure BridgeInput where
  release : VerifiedGovernedRelease
  participants : BridgeParticipants
  pins : AdapterPins
  interpretation : AuthorityInterpretation
  nonce : ℤ
  issuedAt : Number
  expiry : Number

/-- The message of a payload, from the release, the pins and the participants. -/
def releaseMessage (input : BridgeInput) : Except PrepareThrown GovernedReleaseMessage := do
  let fheCaseId ← digestToBytes32 input.release.fheCaseId
  let caseBindingDigest ← digestToBytes32 input.release.caseBindingDigest
  let assetIdentityDigest ← digestToBytes32 input.release.assetIdentity
  let governedResultDigest ← digestToBytes32 input.release.governedResultDigest
  let resultCiphertextDigest ← digestToBytes32 input.release.resultCiphertextDigest
  let participantArtifactDigestA ← digestToBytes32 input.release.participantArtifactDigestA
  let participantArtifactDigestB ← digestToBytes32 input.release.participantArtifactDigestB
  pure
    { runId := bridgeRunId runtime.toStoreRuntime input.release.runId
      fheCaseId := fheCaseId
      caseBindingDigest := caseBindingDigest
      assetIdentityDigest := assetIdentityDigest
      governedResultDigest := governedResultDigest
      resultCiphertextDigest := resultCiphertextDigest
      participantArtifactDigestA := participantArtifactDigestA
      participantArtifactDigestB := participantArtifactDigestB
      holderA := input.participants.holderA
      holderB := input.participants.holderB
      payoutA := input.participants.payoutA
      payoutB := input.participants.payoutB
      conflict := input.release.conflict
      releaseAuthorityId := input.pins.releaseAuthorityId
      releaseMode := input.pins.releaseMode
      circuitHash := input.pins.circuitHash
      parameterFingerprint := input.pins.parameterFingerprint
      nonce := input.nonce
      issuedAt := bigIntOf input.issuedAt
      expiry := bigIntOf input.expiry }

def buildGovernedBridgePayload (input : BridgeInput) :
    Except PrepareThrown GovernedBridgePayload := do
  let problems ← reconcileAdapter runtime input.release input.pins input.interpretation
  revertIf (0 < problems.length) (.governedBridge "ADAPTER_INCOMPATIBLE"
    ("The deployed adapter cannot consume this governed release: " ++
      String.intercalate "; " problems))
  revertIf (input.issuedAt.isSafeInteger = false ∨ input.expiry.isSafeInteger = false ∨
      input.expiry.le input.issuedAt = true)
    (.governedBridge "WINDOW" "The bridge window must be a forward interval")
  revertIf (input.release.conflict = false ∧
      (input.participants.payoutA ≠ 0 ∨ input.participants.payoutB ≠ 0))
    (.governedBridge "PAYOUT_ON_NO_CONFLICT" "A signed false Boolean cannot carry a payout")
  revertIf (input.release.conflict = true ∧
      input.participants.payoutA + input.participants.payoutB = 0)
    (.governedBridge "PAYOUT_MISSING" "A signed true Boolean must carry a payout")
  let message ← releaseMessage runtime input
  pure { chainId := input.pins.chainId, verifyingContract := input.pins.address,
         message := message }

/-- The values `governedReleaseStructHash` encodes, in order. -/
def releaseParameters (m : GovernedReleaseMessage) : List AbiValue :=
  [.bytes32 (runtime.keccakText releaseTypeString), .bytes32 m.runId, .bytes32 m.fheCaseId,
    .bytes32 m.caseBindingDigest, .bytes32 m.assetIdentityDigest,
    .bytes32 m.governedResultDigest, .bytes32 m.resultCiphertextDigest,
    .bytes32 m.participantArtifactDigestA, .bytes32 m.participantArtifactDigestB,
    .address m.holderA, .address m.holderB, .uint m.payoutA, .uint m.payoutB, .bool m.conflict,
    .bytes32 m.releaseAuthorityId, .bytes32 m.releaseMode, .bytes32 m.circuitHash,
    .bytes32 m.parameterFingerprint, .uint m.nonce, .uint m.issuedAt, .uint m.expiry]

def governedReleaseStructHash (payload : GovernedBridgePayload) : Option Hex :=
  runtime.keccakHex <$>
    runtime.encodeAbiParameters (releaseParameters runtime payload.message)

end

/-! ## When a payload is built -/

section

variable {runtime : BridgeRuntime} {input : BridgeInput} {payload : GovernedBridgePayload}

/-- A release whose digests are digests. -/
structure VerifiedGovernedRelease.WellFormed (release : VerifiedGovernedRelease) : Prop where
  fheCaseId : isDigestDigits (release.fheCaseId.drop 7) = true
  caseBindingDigest : isDigestDigits (release.caseBindingDigest.drop 7) = true
  assetIdentity : isDigestDigits (release.assetIdentity.drop 7) = true
  governedResultDigest : isDigestDigits (release.governedResultDigest.drop 7) = true
  resultCiphertextDigest : isDigestDigits (release.resultCiphertextDigest.drop 7) = true
  participantArtifactDigestA : isDigestDigits (release.participantArtifactDigestA.drop 7) = true
  participantArtifactDigestB : isDigestDigits (release.participantArtifactDigestB.drop 7) = true

theorem digestToBytes32_of_digits {digest : Text} (h : isDigestDigits (digest.drop 7) = true) :
    digestToBytes32 digest = .ok ⟨lit "0x" ++ digest.drop 7, List.prefix_append _ _⟩ :=
  if_pos h

/-- A window that runs forward. -/
def ForwardWindow (issuedAt expiry : Number) : Prop :=
  issuedAt.isSafeInteger = true ∧ expiry.isSafeInteger = true ∧ expiry.le issuedAt = false

/-- The payout rule of both outcomes. -/
def PayoutRule (conflict : Bool) (payoutA payoutB : ℤ) : Prop :=
  if conflict then payoutA + payoutB ≠ 0 else payoutA = 0 ∧ payoutB = 0

/-- Some message is encoded, and it says what the release and the participants say. -/
theorem releaseMessage_ok (hformed : input.release.WellFormed) :
    ∃ message, releaseMessage runtime input = .ok message ∧
      message.conflict = input.release.conflict ∧ message.payoutA = input.participants.payoutA ∧
      message.payoutB = input.participants.payoutB := by
  simp only [releaseMessage, digestToBytes32_of_digits hformed.fheCaseId,
    digestToBytes32_of_digits hformed.caseBindingDigest,
    digestToBytes32_of_digits hformed.assetIdentity,
    digestToBytes32_of_digits hformed.governedResultDigest,
    digestToBytes32_of_digits hformed.resultCiphertextDigest,
    digestToBytes32_of_digits hformed.participantArtifactDigestA,
    digestToBytes32_of_digits hformed.participantArtifactDigestB]
  exact ⟨_, rfl, rfl, rfl, rfl⟩

/-- Of a release that reconciles, a payload is built exactly when the payout rule of
its outcome holds. -/
theorem buildGovernedBridgePayload_iff (hformed : input.release.WellFormed)
    (hpins : reconcileAdapter runtime input.release input.pins input.interpretation = .ok [])
    (hwindow : ForwardWindow input.issuedAt input.expiry) :
    (∃ payload, buildGovernedBridgePayload runtime input = .ok payload) ↔
      PayoutRule input.release.conflict input.participants.payoutA
        input.participants.payoutB := by
  obtain ⟨message, hmessage, -, -, -⟩ := @releaseMessage_ok runtime input hformed
  obtain ⟨hissued, hexpiry, hforward⟩ := hwindow
  simp only [buildGovernedBridgePayload, hpins, bind_ok_iff, revertIf_ok_iff, hmessage,
    pure_ok_iff, hissued, hexpiry, hforward]
  cases hconflict : input.release.conflict with
  | true => simp [PayoutRule]
  | false => simp [PayoutRule]

/-- What a payload that was built says, and of which result. -/
theorem buildGovernedBridgePayload_ok (h : buildGovernedBridgePayload runtime input = .ok payload) :
    payload.message.conflict = input.release.conflict ∧
    payload.message.payoutA = input.participants.payoutA ∧
    payload.message.payoutB = input.participants.payoutB ∧
    digestToBytes32 input.release.governedResultDigest =
      .ok payload.message.governedResultDigest := by
  simp only [buildGovernedBridgePayload, releaseMessage, bind_ok_iff, pure_ok_iff] at h
  obtain ⟨_, -, _, -, _, -, _, -, _, -, _, ⟨_, -, _, -, _, -, _, hresult, _, -, _, -, _, -, rfl⟩,
    rfl⟩ := h
  exact ⟨rfl, rfl, rfl, hresult⟩

end

end Mordant.Protection
