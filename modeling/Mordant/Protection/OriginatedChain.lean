/-
# Three signatures, one chain

The final admission is verified together with what came before it: the registration and the
intent are handed in again as they were stored, and are parsed, compared and verified again.
What each phase says is compared with what the server expects, with what the phases before
it say, and with what the server computed from the artifact itself.
-/

import Mordant.Protection.ParticipantOriginated

namespace Mordant.Protection.Originated

open Foundation Script

/-- `ParticipantOriginatedAuthorizationPhase`. -/
inductive AuthorizationPhase
  | registration
  | intent
  | finalAdmission
  deriving DecidableEq

namespace AuthorizationPhase

def text : AuthorizationPhase → String
  | .registration => "REGISTRATION"
  | .intent => "INTENT"
  | .finalAdmission => "FINAL_ADMISSION"

/-- `phase.toLowerCase()`. -/
def lowerText : AuthorizationPhase → String
  | .registration => "registration"
  | .intent => "intent"
  | .finalAdmission => "final_admission"

end AuthorizationPhase

/-- `ParticipantOriginatedBundleContext`. -/
structure BundleContext where
  runId : Text
  fheCaseId : Text
  caseBindingDigest : Text
  protectionBindingDigest : Text
  assetIdentityDigest : Text
  policyDigest : Text
  circuitId : Text
  circuitVersion : Number
  circuitDigest : Text
  parameterProfile : Text
  parameterFingerprint : Text
  fhePublicKeyDigest : Text
  releaseAuthorityId : Text
  releaseMode : Text
  clientBundleDigest : Text
  clientSourceDigest : Text
  clientBuildDigest : Text
  clientBinaryDigest : Text
  bundleExpiresAt : Number

/-- `ExpectedParticipantSigningKeyRegistrationContext`, but for the clock and the chain. -/
structure ExpectedRegistration where
  verifyingService : Text
  runId : Text
  fheCaseId : Text
  assetIdentityDigest : Text
  policyDigest : Text
  role : ParticipantRole
  participantWallet : Text

/-- `VerifiedParticipantSigningKeyRegistration`, as it is handed in again: nothing is known of
what was stored. -/
structure StoredRegistration where
  schemaVersion : Text
  registration : Json
  registrationDigest : Text
  signature : Json
  role : ParticipantRole
  participantWallet : Text
  participantSigningPublicKey : Text
  participantSigningKeyDigest : Text
  chainId : Number

/-- `VerifiedParticipantEncryptionIntent`, as far as it is read when it is handed in again. -/
structure StoredIntent where
  schemaVersion : Text
  intent : Json
  encryptionIntentDigest : Text
  signature : Json
  chainId : Number

/-- `ExpectedParticipantEncryptionIntentContext`. -/
structure ExpectedIntent extends BundleContext where
  verifyingService : Text
  role : ParticipantRole
  participantWallet : Text
  registration : StoredRegistration
  now : Number
  chainId : Option Number

/-- `RecomputedParticipantEncryptedArtifactContext`. -/
structure RecomputedArtifact where
  encryptedArtifactDigest : Text
  ciphertextObjectDigest : Text
  ciphertextObjectLength : Number
  fheCaseId : Text
  caseBindingDigest : Text
  assetIdentityDigest : Text
  role : ParticipantRole
  participantSigningKeyDigest : Text
  parameterProfile : Text
  parameterFingerprint : Text
  fhePublicKeyDigest : Text
  circuitDigest : Text
  submissionNonce : Text
  expiresAt : Number
  embeddedEncryptionIntentDigest : Text
  embeddedClaimCommitment : Text

/-- `ExpectedParticipantFinalEncryptedAdmissionContext`. -/
structure ExpectedFinalAdmission extends ExpectedIntent where
  intent : StoredIntent
  artifact : RecomputedArtifact

/-- `VerifiedParticipantEncryptionIntent`. -/
structure VerifiedIntent where
  intent : EncryptionIntentMessage
  encryptionIntentDigest : Text
  signature : Text
  registrationDigest : Text
  claimCommitment : Text
  role : ParticipantRole
  participantWallet : Text
  participantSigningKeyDigest : Text
  chainId : ℤ

/-- `VerifiedParticipantFinalEncryptedAdmission`. -/
structure VerifiedFinalAdmission where
  admission : FinalEncryptedAdmissionMessage
  finalAdmissionDigest : Text
  signature : Text
  encryptionIntentDigest : Text
  encryptedArtifactDigest : Text
  ciphertextObjectDigest : Text
  submissionNonce : Text
  role : ParticipantRole
  participantWallet : Text
  chainId : ℤ

/-- `ParticipantOriginatedEoaVerifier`, which may throw. -/
abbrev EoaVerifier := AuthorizationPhase → Text → Text → Text → Option Bool

/-- `ParticipantOriginatedNonceReservation`. -/
structure NonceReservation where
  phase : AuthorizationPhase
  runId : Text
  role : ParticipantRole
  nonce : Text
  authorizationDigest : Text

/-- `ParticipantOriginatedNonceGuard`, which may throw. -/
abbrev NonceGuard := NonceReservation → Option Bool

/-! ## Comparisons -/

/-- An entry of a table of comparisons: whether the two are the same, and what is thrown where
they are not. -/
structure Comparison where
  same : Bool
  code : String
  description : String

def expectEqual (same : Bool) (code message : String) : Except OriginatedThrown Unit :=
  revertIf (same = false) (.authorization code 409 message)

/-- The loop over a table. -/
def expectAll : List Comparison → Except OriginatedThrown Unit
  | [] => pure ()
  | comparison :: rest => do
    expectEqual comparison.same comparison.code comparison.description
    expectAll rest

/-- `===`, of a number that was read and one that is expected. -/
def sameNumber (actual : ℤ) (expected : Number) : Bool := (Number.ofInt actual).strictEq expected

/-- `value.name`, where it is a number. -/
def numberMember (value : Json) (name : String) : Number :=
  ((value.get name).bind Json.asNumber).getD .nan

section

variable (runtime : OriginatedRuntime)

def sameWallet (left right : Text) : Bool :=
  match runtime.getAddress left, runtime.getAddress right with
  | some left, some right => left = right
  | _, _ => false

def expectWallet (actual expected : Text) (code : String) : Except OriginatedThrown Unit :=
  revertIf (sameWallet runtime actual expected = false)
    (.authorization code 409 "The authorization wallet does not match this participant")

def assertFresh (issuedAt expiresAt : ℤ) (now : Number) (phase : AuthorizationPhase) :
    Except OriginatedThrown Unit := do
  revertIf (now.isSafeInteger = false ∨ now.le (.ofInt 0) = true)
    (.authorization "SERVER_TIME" 500 "The server clock is invalid")
  revertIf ((Number.ofInt expiresAt).le now = true)
    (.authorization (phase.text ++ "_EXPIRED") 401 ("The " ++ phase.lowerText ++ " has expired"))
  revertIf (bigIntOf now + authorizationClockSkewSeconds < issuedAt)
    (.authorization (phase.text ++ "_NOT_YET_VALID") 401
      ("The " ++ phase.lowerText ++ " is not valid yet"))

def chainIdFrom (value : Option Number) : Except OriginatedThrown ℤ := do
  let chainId := value.getD (.ofInt participantOriginatedChainId)
  revertIf (chainId.isSafeInteger = false ∨ chainId.le (.ofInt 0) = true)
    (.authorization "CHAIN_ID" 500 "A positive chain ID is required")
  pure (bigIntOf chainId)

/-- `verifyParticipantOriginatedEoaSignature`. -/
def verifyEoaSignature : EoaVerifier := fun _ address digest signature =>
  match runtime.recoverAddress digest signature with
  | some recovered => some (sameWallet runtime recovered address)
  | none => some false

def assertEoaSignature (phase : AuthorizationPhase) (address digest signature : Text)
    (verifier : EoaVerifier) : Except OriginatedThrown Unit := do
  let verified ← require (.authorization (phase.text ++ "_SIGNATURE_UNVERIFIABLE") 503
    "The wallet signature could not be verified") (verifier phase address digest signature)
  revertIf (verified = false) (.authorization (phase.text ++ "_SIGNATURE_REJECTED") 401
    "The wallet signature was rejected")

def assertNonceReservation (guard : Option NonceGuard) (reservation : NonceReservation) :
    Except OriginatedThrown Unit :=
  match guard with
  | none => pure ()
  | some guard => do
    let available ← require (.authorization (reservation.phase.text ++ "_NONCE_UNAVAILABLE") 503
      "The nonce journal is unavailable") (guard reservation)
    revertIf (available = false) (.authorization (reservation.phase.text ++ "_REPLAY") 409
      "This authorization nonce was already consumed")

/-! ## The registration -/

def assertRegistrationContext (message : SigningKeyRegistrationMessage)
    (expected : ExpectedRegistration) : Except OriginatedThrown Unit := do
  expectEqual (message.verifyingService = expected.verifyingService)
    "REGISTRATION_SERVICE_MISMATCH" "Wrong service"
  expectEqual (message.runId = expected.runId) "REGISTRATION_RUN_MISMATCH" "Wrong run"
  expectEqual (message.fheCaseId = expected.fheCaseId) "REGISTRATION_CASE_MISMATCH"
    "Wrong FHE case"
  expectEqual (message.assetIdentityDigest = expected.assetIdentityDigest)
    "REGISTRATION_ASSET_MISMATCH" "Wrong asset"
  expectEqual (message.policyDigest = expected.policyDigest) "REGISTRATION_POLICY_MISMATCH"
    "Wrong policy"
  expectEqual (message.role = expected.role) "REGISTRATION_ROLE_MISMATCH"
    "Wrong participant role"
  expectWallet runtime message.participantWallet expected.participantWallet
    "REGISTRATION_WALLET_MISMATCH"

/-- `assertStoredRegistration`, which returns what was stored. -/
def assertStoredRegistration (stored : StoredRegistration) (expected : ExpectedRegistration)
    (now : Number) (chainId : ℤ) (verifier : EoaVerifier) :
    Except OriginatedThrown StoredRegistration := do
  revertIf (stored.schemaVersion ≠ signingKeyRegistrationSchema)
    (.authorization "REGISTRATION_CHAIN_SCHEMA" 409
      "The stored signing-key registration schema is wrong")
  let message ← assertSigningKeyRegistrationMessage runtime stored.registration
  let signature ← exactSignature (some stored.signature)
  assertRegistrationContext runtime message expected
  assertFresh message.issuedAt message.expiresAt now .registration
  expectEqual (stored.chainId.strictEq (.ofInt chainId)) "REGISTRATION_CHAIN_ID"
    "The registration came from another chain"
  let digest ← signingKeyRegistrationDigest runtime message chainId
  expectEqual (stored.registrationDigest = digest) "REGISTRATION_CHAIN_DIGEST"
    "The registration digest is stale"
  expectEqual (stored.role = message.role) "REGISTRATION_CHAIN_ROLE"
    "The stored registration role is inconsistent"
  expectWallet runtime stored.participantWallet message.participantWallet
    "REGISTRATION_CHAIN_WALLET"
  expectEqual (stored.participantSigningPublicKey = message.participantSigningPublicKey)
    "REGISTRATION_CHAIN_PUBLIC_KEY" "The stored registration public key is inconsistent"
  expectEqual (stored.participantSigningKeyDigest = message.participantSigningKeyDigest)
    "REGISTRATION_CHAIN_KEY_DIGEST" "The stored registration key digest is inconsistent"
  assertEoaSignature .registration message.participantWallet digest signature verifier
  pure stored

/-! ## The intent -/

def assertIntentMatchesBundle (message : EncryptionIntentMessage) (expected : BundleContext) :
    Except OriginatedThrown Unit :=
  expectAll
    [⟨message.runId = expected.runId, "INTENT_RUN_MISMATCH", "Wrong run"⟩,
      ⟨message.fheCaseId = expected.fheCaseId, "INTENT_CASE_MISMATCH", "Wrong FHE case"⟩,
      ⟨message.caseBindingDigest = expected.caseBindingDigest, "INTENT_CASE_BINDING_MISMATCH",
        "Wrong case binding"⟩,
      ⟨message.protectionBindingDigest = expected.protectionBindingDigest,
        "INTENT_PROTECTION_BINDING_MISMATCH", "Wrong protection binding"⟩,
      ⟨message.assetIdentityDigest = expected.assetIdentityDigest, "INTENT_ASSET_MISMATCH",
        "Wrong asset"⟩,
      ⟨message.policyDigest = expected.policyDigest, "INTENT_POLICY_MISMATCH", "Wrong policy"⟩,
      ⟨message.circuitId = expected.circuitId, "INTENT_CIRCUIT_ID_MISMATCH", "Wrong circuit"⟩,
      ⟨sameNumber message.circuitVersion expected.circuitVersion,
        "INTENT_CIRCUIT_VERSION_MISMATCH", "Wrong circuit version"⟩,
      ⟨message.circuitDigest = expected.circuitDigest, "INTENT_CIRCUIT_DIGEST_MISMATCH",
        "Wrong circuit digest"⟩,
      ⟨message.parameterProfile = expected.parameterProfile, "INTENT_PROFILE_MISMATCH",
        "Wrong parameter profile"⟩,
      ⟨message.parameterFingerprint = expected.parameterFingerprint,
        "INTENT_PARAMETER_FINGERPRINT_MISMATCH", "Wrong parameter fingerprint"⟩,
      ⟨message.fhePublicKeyDigest = expected.fhePublicKeyDigest, "INTENT_FHE_KEY_MISMATCH",
        "Wrong FHE public key"⟩,
      ⟨message.releaseAuthorityId = expected.releaseAuthorityId,
        "INTENT_RELEASE_AUTHORITY_MISMATCH", "Wrong release authority"⟩,
      ⟨message.releaseMode = expected.releaseMode, "INTENT_RELEASE_MODE_MISMATCH",
        "Wrong release mode"⟩,
      ⟨message.clientBundleDigest = expected.clientBundleDigest, "INTENT_BUNDLE_MISMATCH",
        "Wrong or stale bundle"⟩,
      ⟨message.clientSourceDigest = expected.clientSourceDigest,
        "INTENT_CLIENT_SOURCE_MISMATCH", "Wrong client source"⟩,
      ⟨message.clientBuildDigest = expected.clientBuildDigest, "INTENT_CLIENT_BUILD_MISMATCH",
        "Wrong client build"⟩,
      ⟨message.clientBinaryDigest = expected.clientBinaryDigest,
        "INTENT_CLIENT_BINARY_MISMATCH", "Wrong client binary"⟩,
      ⟨sameNumber message.bundleExpiresAt expected.bundleExpiresAt,
        "INTENT_BUNDLE_EXPIRY_MISMATCH", "Wrong bundle expiry"⟩]

/-- `assertParticipantEncryptionIntentRequest`. -/
def assertEncryptionIntentRequest (value : Json) :
    Except OriginatedThrown (EncryptionIntentMessage × Text) := do
  revertIf (exactKeys value ["schemaVersion", "intent", "signature"] = false)
    (.authorization "INTENT_REQUEST_MEMBERS" 400
      "The encryption-intent request members are not exact")
  revertIf ((value.get "schemaVersion").bind Json.asText ≠ some encryptionIntentSchema)
    (.authorization "INTENT_SCHEMA" 400 "The encryption-intent schema is not supported")
  let intent ← assertEncryptionIntentMessage runtime ((value.get "intent").getD .null)
  let signature ← exactSignature (value.get "signature")
  pure (intent, signature)

/-- What a registration is compared with. -/
def ExpectedIntent.registrationContext (expected : ExpectedIntent) : ExpectedRegistration :=
  ⟨expected.verifyingService, expected.runId, expected.fheCaseId, expected.assetIdentityDigest,
    expected.policyDigest, expected.role, expected.participantWallet⟩

def verifyParticipantEncryptionIntent (value : Json) (expected : ExpectedIntent)
    (verifier : EoaVerifier) (guard : Option NonceGuard) :
    Except OriginatedThrown VerifiedIntent := do
  let (message, signature) ← assertEncryptionIntentRequest runtime value
  let chainId ← chainIdFrom expected.chainId
  let registration ← assertStoredRegistration runtime expected.registration
    expected.registrationContext expected.now chainId verifier
  expectEqual (message.verifyingService = expected.verifyingService) "INTENT_SERVICE_MISMATCH"
    "Wrong service"
  assertIntentMatchesBundle message expected.toBundleContext
  expectEqual (message.role = expected.role) "INTENT_ROLE_MISMATCH" "Wrong participant role"
  expectWallet runtime message.participantWallet expected.participantWallet
    "INTENT_WALLET_MISMATCH"
  expectEqual
    (message.participantSigningKeyDigest = expected.registration.participantSigningKeyDigest)
    "INTENT_SIGNING_KEY_MISMATCH" "Wrong participant signing key"
  expectEqual (message.registrationDigest = registration.registrationDigest)
    "INTENT_REGISTRATION_MISMATCH" "Wrong signing-key registration"
  revertIf
    ((Number.ofInt message.issuedAt).lt (numberMember registration.registration "issuedAt") =
        true ∨
      (numberMember registration.registration "expiresAt").lt (.ofInt message.expiresAt) = true)
    (.authorization "INTENT_REGISTRATION_WINDOW" 409
      "The encryption intent must remain inside its signing-key registration window")
  revertIf
    ((registration.registration.get "registrationNonce").bind Json.asText =
      some message.intentNonce)
    (.authorization "INTENT_NONCE_REUSE" 409
      "The intent nonce must differ from the registration nonce")
  revertIf (expected.bundleExpiresAt.le expected.now = true)
    (.authorization "INTENT_STALE_BUNDLE" 409 "The public client bundle has expired")
  assertFresh message.issuedAt message.expiresAt expected.now .intent
  let digest ← encryptionIntentDigest runtime message chainId
  assertEoaSignature .intent message.participantWallet digest signature verifier
  assertNonceReservation guard ⟨.intent, message.runId, message.role, message.intentNonce, digest⟩
  pure
    { intent := message
      encryptionIntentDigest := digest
      signature := signature
      registrationDigest := message.registrationDigest
      claimCommitment := message.claimCommitment
      role := message.role
      participantWallet := message.participantWallet
      participantSigningKeyDigest := message.participantSigningKeyDigest
      chainId := chainId }

/-! ## The final admission -/

def assertArtifactMatchesIntentAndBundle (artifact : RecomputedArtifact)
    (intent : EncryptionIntentMessage) (intentDigest : Text) (expected : BundleContext)
    (now : Number) : Except OriginatedThrown Unit := do
  expectAll
    [⟨artifact.fheCaseId = expected.fheCaseId, "ARTIFACT_CASE_MISMATCH",
        "Artifact belongs to another case"⟩,
      ⟨artifact.caseBindingDigest = expected.caseBindingDigest, "ARTIFACT_CASE_BINDING_MISMATCH",
        "Artifact has another case binding"⟩,
      ⟨artifact.assetIdentityDigest = expected.assetIdentityDigest, "ARTIFACT_ASSET_MISMATCH",
        "Artifact has another asset"⟩,
      ⟨artifact.role = intent.role, "ARTIFACT_ROLE_MISMATCH", "Artifact has another role"⟩,
      ⟨artifact.participantSigningKeyDigest = intent.participantSigningKeyDigest,
        "ARTIFACT_SIGNING_KEY_MISMATCH", "Artifact has another participant signer"⟩,
      ⟨artifact.parameterProfile = expected.parameterProfile, "ARTIFACT_PROFILE_MISMATCH",
        "Artifact has another profile"⟩,
      ⟨artifact.parameterFingerprint = expected.parameterFingerprint,
        "ARTIFACT_PARAMETER_FINGERPRINT_MISMATCH", "Artifact has other parameters"⟩,
      ⟨artifact.fhePublicKeyDigest = expected.fhePublicKeyDigest, "ARTIFACT_FHE_KEY_MISMATCH",
        "Artifact has another FHE key"⟩,
      ⟨artifact.circuitDigest = expected.circuitDigest, "ARTIFACT_CIRCUIT_MISMATCH",
        "Artifact has another circuit"⟩,
      ⟨artifact.embeddedEncryptionIntentDigest = intentDigest,
        "ARTIFACT_INTENT_COMMITMENT_MISMATCH", "Ciphertext does not carry this intent digest"⟩,
      ⟨artifact.embeddedClaimCommitment = intent.claimCommitment,
        "ARTIFACT_CLAIM_COMMITMENT_MISMATCH",
        "Ciphertext does not carry this hiding commitment"⟩]
  let _ ← exactPositiveInteger (some (.number artifact.ciphertextObjectLength))
    "ARTIFACT_CIPHERTEXT_LENGTH" "ciphertextObjectLength" ciphertextMaxBytes
  let _ ← exactBytes32 (some (.text artifact.encryptedArtifactDigest)) "ARTIFACT_DIGEST"
    "encryptedArtifactDigest"
  let _ ← exactBytes32 (some (.text artifact.ciphertextObjectDigest))
    "ARTIFACT_CIPHERTEXT_DIGEST" "ciphertextObjectDigest"
  let _ ← exactBytes32 (some (.text artifact.submissionNonce)) "ARTIFACT_SUBMISSION_NONCE"
    "submissionNonce"
  revertIf (artifact.expiresAt.isSafeInteger = false ∨ artifact.expiresAt.le now = true)
    (.authorization "ARTIFACT_EXPIRED" 401 "The encrypted participant artifact has expired")
  revertIf (expected.bundleExpiresAt.lt artifact.expiresAt = true)
    (.authorization "ARTIFACT_BUNDLE_EXPIRY" 409
      "The encrypted artifact outlives its client bundle")

/-- `assertParticipantFinalEncryptedAdmissionRequest`. -/
def assertFinalEncryptedAdmissionRequest (value : Json) :
    Except OriginatedThrown (FinalEncryptedAdmissionMessage × Text) := do
  revertIf (exactKeys value ["schemaVersion", "admission", "signature"] = false)
    (.authorization "FINAL_ADMISSION_REQUEST_MEMBERS" 400
      "The final admission request members are not exact")
  revertIf ((value.get "schemaVersion").bind Json.asText ≠ some finalEncryptedAdmissionSchema)
    (.authorization "FINAL_ADMISSION_SCHEMA" 400
      "The final encrypted-admission schema is not supported")
  let admission ← assertFinalEncryptedAdmissionMessage runtime
    ((value.get "admission").getD .null)
  let signature ← exactSignature (value.get "signature")
  pure (admission, signature)

/-- A stored intent, as a request. -/
def StoredIntent.request (stored : StoredIntent) : Json :=
  .object [(lit "schemaVersion", .text stored.schemaVersion), (lit "intent", stored.intent),
    (lit "signature", stored.signature)]

/-- The comparisons of `verifyParticipantFinalEncryptedAdmission`. -/
def finalAdmissionComparisons (message : FinalEncryptedAdmissionMessage)
    (intent : VerifiedIntent) (expected : ExpectedFinalAdmission) : List Comparison :=
  [⟨message.verifyingService = expected.verifyingService, "FINAL_ADMISSION_SERVICE_MISMATCH",
      "Wrong service"⟩,
    ⟨message.runId = expected.runId, "FINAL_ADMISSION_RUN_MISMATCH", "Wrong run"⟩,
    ⟨message.fheCaseId = expected.fheCaseId, "FINAL_ADMISSION_CASE_MISMATCH", "Wrong FHE case"⟩,
    ⟨message.role = expected.role, "FINAL_ADMISSION_ROLE_MISMATCH", "Wrong participant role"⟩,
    ⟨message.participantSigningKeyDigest = expected.registration.participantSigningKeyDigest,
      "FINAL_ADMISSION_SIGNING_KEY_MISMATCH", "Wrong participant signing key"⟩,
    ⟨message.registrationDigest = expected.registration.registrationDigest,
      "FINAL_ADMISSION_REGISTRATION_MISMATCH", "Wrong signing-key registration"⟩,
    ⟨message.clientBundleDigest = expected.clientBundleDigest,
      "FINAL_ADMISSION_BUNDLE_MISMATCH", "Wrong or stale client bundle"⟩,
    ⟨message.encryptionIntentDigest = intent.encryptionIntentDigest,
      "FINAL_ADMISSION_INTENT_MISMATCH", "Wrong encryption intent"⟩,
    ⟨message.claimCommitment = intent.claimCommitment,
      "FINAL_ADMISSION_CLAIM_COMMITMENT_MISMATCH", "Wrong hiding claim commitment"⟩,
    ⟨message.encryptedArtifactDigest = expected.artifact.encryptedArtifactDigest,
      "FINAL_ADMISSION_ARTIFACT_DIGEST_MISMATCH", "Wrong encrypted artifact digest"⟩,
    ⟨message.ciphertextObjectDigest = expected.artifact.ciphertextObjectDigest,
      "FINAL_ADMISSION_CIPHERTEXT_DIGEST_MISMATCH", "Wrong ciphertext digest"⟩,
    ⟨sameNumber message.ciphertextObjectLength expected.artifact.ciphertextObjectLength,
      "FINAL_ADMISSION_CIPHERTEXT_LENGTH_MISMATCH", "Wrong ciphertext length"⟩,
    ⟨message.submissionNonce = expected.artifact.submissionNonce,
      "FINAL_ADMISSION_SUBMISSION_NONCE_MISMATCH", "Wrong artifact submission nonce"⟩]

def verifyParticipantFinalEncryptedAdmission (value : Json) (expected : ExpectedFinalAdmission)
    (verifier : EoaVerifier) (guard : Option NonceGuard) :
    Except OriginatedThrown VerifiedFinalAdmission := do
  let (message, signature) ← assertFinalEncryptedAdmissionRequest runtime value
  let chainId ← chainIdFrom expected.chainId
  let intent ← verifyParticipantEncryptionIntent runtime expected.intent.request
    { expected.toExpectedIntent with chainId := some (.ofInt chainId) } verifier none
  expectEqual (expected.intent.encryptionIntentDigest = intent.encryptionIntentDigest)
    "FINAL_ADMISSION_STORED_INTENT_DIGEST" "The stored intent digest is inconsistent"
  expectEqual (expected.intent.chainId.strictEq (.ofInt chainId)) "FINAL_ADMISSION_INTENT_CHAIN"
    "The intent came from another chain"
  assertArtifactMatchesIntentAndBundle expected.artifact intent.intent
    intent.encryptionIntentDigest expected.toBundleContext expected.now
  expectAll (finalAdmissionComparisons message intent expected)
  expectWallet runtime message.participantWallet expected.participantWallet
    "FINAL_ADMISSION_WALLET_MISMATCH"
  revertIf
    (message.submissionNonce = intent.intent.intentNonce ∨
      (expected.registration.registration.get "registrationNonce").bind Json.asText =
        some message.submissionNonce)
    (.authorization "FINAL_ADMISSION_NONCE_REUSE" 409
      "The submission nonce must be distinct from earlier phases")
  revertIf
    (message.issuedAt < intent.intent.issuedAt ∨ intent.intent.expiresAt < message.issuedAt)
    (.authorization "FINAL_ADMISSION_INTENT_WINDOW" 409
      "The final admission was not issued within its intent window")
  revertIf
    (intent.intent.expiresAt < message.expiresAt ∨
      expected.artifact.expiresAt.lt (.ofInt message.expiresAt) = true ∨
      expected.bundleExpiresAt.lt (.ofInt message.expiresAt) = true)
    (.authorization "FINAL_ADMISSION_EXPIRY_RELATIONSHIP" 409
      "The final admission outlives a prerequisite")
  assertFresh message.issuedAt message.expiresAt expected.now .finalAdmission
  let digest ← finalEncryptedAdmissionDigest runtime message chainId
  assertEoaSignature .finalAdmission message.participantWallet digest signature verifier
  assertNonceReservation guard
    ⟨.finalAdmission, message.runId, message.role, message.submissionNonce, digest⟩
  pure
    { admission := message
      finalAdmissionDigest := digest
      signature := signature
      encryptionIntentDigest := message.encryptionIntentDigest
      encryptedArtifactDigest := message.encryptedArtifactDigest
      ciphertextObjectDigest := message.ciphertextObjectDigest
      submissionNonce := message.submissionNonce
      role := message.role
      participantWallet := message.participantWallet
      chainId := chainId }

end

/-! ## What a check establishes -/

section

variable {runtime : OriginatedRuntime} {verifier : EoaVerifier} {value : Json} {now : Number}
  {chainId : ℤ} {phase : AuthorizationPhase} {issuedAt expiresAt : ℤ} {code : String} {u : Unit}
  {member : Option Json}

@[simp] theorem expectEqual_ok_iff {same : Bool} {message : String} :
    expectEqual same code message = .ok u ↔ same = true := by
  rw [expectEqual, revertIf_ok_iff, Bool.not_eq_false]

/-- A table passes if each of its entries does. -/
theorem expectAll_ok_iff {comparisons : List Comparison} :
    expectAll comparisons = .ok u ↔ ∀ comparison ∈ comparisons, comparison.same = true := by
  induction comparisons with
  | nil => exact ⟨fun _ _ h => (List.not_mem_nil h).elim, fun _ => rfl⟩
  | cons comparison rest ih =>
      simp only [expectAll, bind_ok_iff, exists_unit, expectEqual_ok_iff, ih,
        List.forall_mem_cons]

theorem sameNumber_iff {actual : ℤ} {expected : Number} :
    sameNumber actual expected = true ↔ .ofInt actual = expected :=
  Number.strictEq_iff (fun h => nomatch h)

theorem eq_of_strictEq {left right : Number} (h : left.strictEq right = true) : left = right := by
  cases left with
  | nan => exact nomatch h
  | finite value => exact of_decide_eq_true h
  | infinite negative => exact of_decide_eq_true h

/-- At a time of the server's clock, the window has not ended, and has begun but for the skew. -/
def Fresh (issuedAt expiresAt : ℤ) (now : Number) : Prop :=
  ∃ clock : ℤ, now = .ofInt clock ∧ clock < expiresAt ∧
    issuedAt ≤ clock + authorizationClockSkewSeconds

theorem assertFresh_ok (h : assertFresh issuedAt expiresAt now phase = .ok u) :
    Fresh issuedAt expiresAt now := by
  simp only [assertFresh, bind_ok_iff, exists_unit, revertIf_ok_iff, not_or, Bool.not_eq_false,
    not_lt] at h
  obtain ⟨⟨hsafe, -⟩, hunexpired, hissued⟩ := h
  refine ⟨bigIntOf now, (ofInt_bigIntOf hsafe).symm, ?_, hissued⟩
  rw [← ofInt_bigIntOf hsafe, le_ofInt] at hunexpired
  exact not_le.mp hunexpired

/-- A wallet that was read and is the expected one. -/
theorem wallet_of_expected {text wallet expected : Text}
    (haddress : ∀ text address, runtime.getAddress text = some address →
      runtime.getAddress address = some address) (hread : runtime.getAddress text = some wallet)
    (h : expectWallet runtime wallet expected code = .ok u) :
    runtime.getAddress expected = some wallet := by
  rw [expectWallet, revertIf_ok_iff, Bool.not_eq_false, sameWallet, haddress text wallet hread] at h
  cases hexpected : runtime.getAddress expected with
  | none =>
      rw [hexpected] at h
      exact nomatch h
  | some other =>
      rw [hexpected] at h
      exact congrArg some (of_decide_eq_true h).symm

theorem assertEoaSignature_ok {address digest signature : Text}
    (h : assertEoaSignature phase address digest signature verifier = .ok u) :
    verifier phase address digest signature = some true := by
  simp only [assertEoaSignature, bind_ok_iff, require_ok_iff, revertIf_ok_iff,
    Bool.not_eq_false] at h
  obtain ⟨_, hverified, rfl⟩ := h
  exact hverified

theorem readInteger_ok {test : ℤ → Bool} {thrown : OriginatedThrown} {n : ℤ}
    (h : readInteger test member thrown = .ok n) : member = some (.number (.ofInt n)) := by
  unfold readInteger at h
  split at h
  · split at h
    · next hpasses =>
        obtain rfl := Except.ok.inj h
        rw [ofInt_bigIntOf (Bool.and_eq_true_iff.mp hpasses).1]
    · exact nomatch h
  · exact nomatch h

/-- A positive integer that was read is the member. -/
theorem numberMember_of_positive {name label : String} {maximum n : ℤ}
    (h : exactPositiveInteger (value.get name) code label maximum = .ok n) :
    numberMember value name = .ofInt n := by
  rw [numberMember, readInteger_ok h]
  rfl

/-- And so is a digest. -/
theorem textMember_of_bytes32 {name label : String} {text : Text}
    (h : exactBytes32 (value.get name) code label = .ok text) :
    (value.get name).bind Json.asText = some text := by
  rw [(readText_ok_iff.mp h).1]
  rfl

theorem getAddress_of_wallet {wallet : Text} (h : exactWallet runtime member code = .ok wallet) :
    ∃ text, runtime.getAddress text = some wallet := by
  simp only [exactWallet, bind_ok_iff, require_ok_iff] at h
  obtain ⟨text, -, hwallet⟩ := h
  exact ⟨text, hwallet⟩

theorem digestOf_ok {typed : Except OriginatedThrown OriginatedTypedData} {digest : Text}
    (h : digestOf runtime typed = .ok digest) :
    ∃ data, typed = .ok data ∧ runtime.hashTypedData data = some digest := by
  simp only [digestOf, bind_ok_iff, require_ok_iff] at h
  exact h

end

/-! ## What the phases establish -/

section

variable {runtime : OriginatedRuntime} {verifier : EoaVerifier} {guard : Option NonceGuard}
  (haddress : ∀ text address, runtime.getAddress text = some address →
    runtime.getAddress address = some address)

/-- A wallet signed what a builder returns for a message: the verifier says so of its digest. -/
def VerifiedBy (runtime : OriginatedRuntime) (verifier : EoaVerifier) (phase : AuthorizationPhase)
    (wallet digest : Text) (typed : Except OriginatedThrown OriginatedTypedData) : Prop :=
  ∃ data signature, typed = .ok data ∧ runtime.hashTypedData data = some digest ∧
    verifier phase wallet digest signature = some true

/-- What is known of a stored registration that is accepted. -/
structure RegistrationVerified (runtime : OriginatedRuntime) (stored : StoredRegistration)
    (expected : ExpectedRegistration) (now : Number) (chainId : ℤ) (verifier : EoaVerifier)
    (message : SigningKeyRegistrationMessage) : Prop where
  parsed : assertSigningKeyRegistrationMessage runtime stored.registration = .ok message
  verifyingService : message.verifyingService = expected.verifyingService
  runId : message.runId = expected.runId
  fheCaseId : message.fheCaseId = expected.fheCaseId
  assetIdentityDigest : message.assetIdentityDigest = expected.assetIdentityDigest
  policyDigest : message.policyDigest = expected.policyDigest
  role : message.role = expected.role
  wallet : runtime.getAddress expected.participantWallet = some message.participantWallet
  fresh : Fresh message.issuedAt message.expiresAt now
  chain : stored.chainId = .ofInt chainId
  keyDigest : stored.participantSigningKeyDigest = message.participantSigningKeyDigest
  verified : VerifiedBy runtime verifier .registration message.participantWallet
    stored.registrationDigest (signingKeyRegistrationTypedData runtime message chainId)
  issuedAt : numberMember stored.registration "issuedAt" = .ofInt message.issuedAt
  expiresAt : numberMember stored.registration "expiresAt" = .ofInt message.expiresAt
  nonce : (stored.registration.get "registrationNonce").bind Json.asText =
    some message.registrationNonce

/-- An intent names the bundle it was expected for, and all that is in it. -/
structure BundlePinned (message : EncryptionIntentMessage) (expected : BundleContext) : Prop where
  runId : message.runId = expected.runId
  fheCaseId : message.fheCaseId = expected.fheCaseId
  caseBindingDigest : message.caseBindingDigest = expected.caseBindingDigest
  protectionBindingDigest : message.protectionBindingDigest = expected.protectionBindingDigest
  assetIdentityDigest : message.assetIdentityDigest = expected.assetIdentityDigest
  policyDigest : message.policyDigest = expected.policyDigest
  circuitId : message.circuitId = expected.circuitId
  circuitVersion : .ofInt message.circuitVersion = expected.circuitVersion
  circuitDigest : message.circuitDigest = expected.circuitDigest
  parameterProfile : message.parameterProfile = expected.parameterProfile
  parameterFingerprint : message.parameterFingerprint = expected.parameterFingerprint
  fhePublicKeyDigest : message.fhePublicKeyDigest = expected.fhePublicKeyDigest
  releaseAuthorityId : message.releaseAuthorityId = expected.releaseAuthorityId
  releaseMode : message.releaseMode = expected.releaseMode
  clientBundleDigest : message.clientBundleDigest = expected.clientBundleDigest
  clientSourceDigest : message.clientSourceDigest = expected.clientSourceDigest
  clientBuildDigest : message.clientBuildDigest = expected.clientBuildDigest
  clientBinaryDigest : message.clientBinaryDigest = expected.clientBinaryDigest
  bundleExpiresAt : .ofInt message.bundleExpiresAt = expected.bundleExpiresAt

theorem assertIntentMatchesBundle_ok {message : EncryptionIntentMessage}
    {expected : BundleContext} {u : Unit} (h : assertIntentMatchesBundle message expected = .ok u) :
    BundlePinned message expected := by
  simp only [assertIntentMatchesBundle, expectAll_ok_iff, List.forall_mem_cons,
    decide_eq_true_eq, sameNumber_iff, List.not_mem_nil, false_imp_iff, implies_true,
    and_true] at h
  obtain ⟨hrun, hcase, hbinding, hprotection, hasset, hpolicy, hcircuit, hversion, hdigest,
    hprofile, hfingerprint, hkey, hauthority, hmode, hbundle, hsource, hbuild, hbinary,
    hexpires⟩ := h
  exact ⟨hrun, hcase, hbinding, hprotection, hasset, hpolicy, hcircuit, hversion, hdigest,
    hprofile, hfingerprint, hkey, hauthority, hmode, hbundle, hsource, hbuild, hbinary, hexpires⟩

theorem lt_ofInt {n m : ℤ} : (Number.ofInt n).lt (.ofInt m) = true ↔ n < m := by
  rw [Number.lt, Bool.and_eq_true, le_ofInt, Bool.not_eq_true', Bool.eq_false_iff, ne_eq, le_ofInt]
  omega

theorem wallet_of_intent {value : Json} {message : EncryptionIntentMessage}
    (h : assertEncryptionIntentMessage runtime value = .ok message) :
    ∃ text, runtime.getAddress text = some message.participantWallet := by
  simp only [assertEncryptionIntentMessage, bind_ok_iff, exists_unit, revertIf_ok_iff,
    pure_ok_iff] at h
  obtain ⟨-, _, -, _, -, _, -, -, -, _, -, _, -, _, -, _, -, _, -, _, -, _, -, _, -, _, -, _, -,
    _, -, _, -, _, -, _, -, _, -, _, -, _, hread, _, -, _, -, _, -, _, -, _, -, _, -, _, -, _, -,
    rfl⟩ := h
  exact getAddress_of_wallet hread

theorem wallet_of_admission {value : Json} {message : FinalEncryptedAdmissionMessage}
    (h : assertFinalEncryptedAdmissionMessage runtime value = .ok message) :
    ∃ text, runtime.getAddress text = some message.participantWallet := by
  simp only [assertFinalEncryptedAdmissionMessage, bind_ok_iff, exists_unit, revertIf_ok_iff,
    pure_ok_iff] at h
  obtain ⟨-, _, -, _, -, -, _, -, _, -, _, -, _, -, _, hread, _, -, _, -, _, -, _, -, _, -, _, -,
    _, -, _, -, _, -, rfl⟩ := h
  exact getAddress_of_wallet hread

include haddress

theorem assertStoredRegistration_ok {stored returned : StoredRegistration}
    {expected : ExpectedRegistration} {now : Number} {chainId : ℤ}
    (h : assertStoredRegistration runtime stored expected now chainId verifier = .ok returned) :
    returned = stored ∧
      ∃ message, RegistrationVerified runtime stored expected now chainId verifier message := by
  simp only [assertStoredRegistration, assertRegistrationContext, bind_ok_iff, exists_unit,
    revertIf_ok_iff, expectEqual_ok_iff, decide_eq_true_eq, pure_ok_iff] at h
  obtain ⟨-, message, hparsed, signature, -, ⟨hservice, hrun, hcase, hasset, hpolicy, hrole,
    hwallet⟩, hfresh, hchain, digest, hdigest, hstored, -, -, -, hkey, hsigned, rfl⟩ := h
  refine ⟨rfl, message, ?_⟩
  obtain ⟨data, hdata, hhash⟩ := digestOf_ok hdigest
  have hread := hparsed
  simp only [assertSigningKeyRegistrationMessage, bind_ok_iff, exists_unit, revertIf_ok_iff,
    pure_ok_iff] at hread
  obtain ⟨-, _, -, _, -, _, -, -, _, hissued, _, hexpires, -, _, -, _, -, _, -, _, -, _, -, _, -,
    _, hread, _, hnonce, rfl⟩ := hread
  obtain ⟨text, haddressed⟩ := getAddress_of_wallet hread
  exact
    { parsed := hparsed
      verifyingService := hservice
      runId := hrun
      fheCaseId := hcase
      assetIdentityDigest := hasset
      policyDigest := hpolicy
      role := hrole
      wallet := wallet_of_expected haddress haddressed hwallet
      fresh := assertFresh_ok hfresh
      chain := eq_of_strictEq hchain
      keyDigest := hkey
      verified := ⟨data, signature, hdata, hstored ▸ hhash, hstored ▸ assertEoaSignature_ok hsigned⟩
      issuedAt := numberMember_of_positive hissued
      expiresAt := numberMember_of_positive hexpires
      nonce := textMember_of_bytes32 hnonce }

/-- What is known of an intent that is accepted. -/
structure IntentVerified (runtime : OriginatedRuntime) (expected : ExpectedIntent) (chainId : ℤ)
    (verifier : EoaVerifier) (registration : SigningKeyRegistrationMessage)
    (message : EncryptionIntentMessage) (digest : Text) : Prop where
  registered : RegistrationVerified runtime expected.registration expected.registrationContext
    expected.now chainId verifier registration
  verifyingService : message.verifyingService = expected.verifyingService
  bundle : BundlePinned message expected.toBundleContext
  role : message.role = expected.role
  wallet : runtime.getAddress expected.participantWallet = some message.participantWallet
  keyDigest :
    message.participantSigningKeyDigest = expected.registration.participantSigningKeyDigest
  registrationDigest : message.registrationDigest = expected.registration.registrationDigest
  issued : registration.issuedAt ≤ message.issuedAt
  expires : message.expiresAt ≤ registration.expiresAt
  nonce : message.intentNonce ≠ registration.registrationNonce
  fresh : Fresh message.issuedAt message.expiresAt expected.now
  verified : VerifiedBy runtime verifier .intent message.participantWallet digest
    (encryptionIntentTypedData runtime message chainId)

theorem verifyParticipantEncryptionIntent_ok {value : Json} {expected : ExpectedIntent}
    {verified : VerifiedIntent}
    (h : verifyParticipantEncryptionIntent runtime value expected verifier guard = .ok verified) :
    chainIdFrom expected.chainId = .ok verified.chainId ∧
      assertEncryptionIntentMessage runtime ((value.get "intent").getD .null) =
        .ok verified.intent ∧
      verified.claimCommitment = verified.intent.claimCommitment ∧
      ∃ registration, IntentVerified runtime expected verified.chainId verifier registration
        verified.intent verified.encryptionIntentDigest := by
  simp only [verifyParticipantEncryptionIntent, bind_ok_iff, exists_unit, revertIf_ok_iff,
    expectEqual_ok_iff, decide_eq_true_eq, pure_ok_iff] at h
  obtain ⟨⟨message, signature⟩, hrequest, chainId, hchain, stored, hstored, hservice, hbundle,
    hrole, hwallet, hkey, hregistration, hwindow, hnonce, -, hfresh, digest, hdigest, hsigned, -,
    rfl⟩ := h
  obtain ⟨rfl, registration, hverified⟩ := assertStoredRegistration_ok haddress hstored
  simp only [assertEncryptionIntentRequest, bind_ok_iff, exists_unit, revertIf_ok_iff,
    pure_ok_iff, Prod.mk.injEq] at hrequest
  obtain ⟨-, -, _, hparsed, _, -, rfl, rfl⟩ := hrequest
  refine ⟨hchain, hparsed, rfl, registration, ?_⟩
  obtain ⟨text, haddressed⟩ := wallet_of_intent hparsed
  obtain ⟨data, hdata, hhash⟩ := digestOf_ok hdigest
  rw [hverified.issuedAt, hverified.expiresAt, not_or, lt_ofInt, lt_ofInt] at hwindow
  exact
    { registered := hverified
      verifyingService := hservice
      bundle := assertIntentMatchesBundle_ok hbundle
      role := hrole
      wallet := wallet_of_expected haddress haddressed hwallet
      keyDigest := hkey
      registrationDigest := hregistration
      issued := not_lt.mp hwindow.1
      expires := not_lt.mp hwindow.2
      nonce := fun h => hnonce (hverified.nonce.trans (congrArg some h.symm))
      fresh := assertFresh_ok hfresh
      verified := ⟨data, _, hdata, hhash, assertEoaSignature_ok hsigned⟩ }

/-- What is known of an artifact that the server computed. -/
structure ArtifactPinned (artifact : RecomputedArtifact) (intent : EncryptionIntentMessage)
    (intentDigest : Text) (expected : BundleContext) : Prop where
  fheCaseId : artifact.fheCaseId = expected.fheCaseId
  caseBindingDigest : artifact.caseBindingDigest = expected.caseBindingDigest
  assetIdentityDigest : artifact.assetIdentityDigest = expected.assetIdentityDigest
  role : artifact.role = intent.role
  keyDigest : artifact.participantSigningKeyDigest = intent.participantSigningKeyDigest
  parameterProfile : artifact.parameterProfile = expected.parameterProfile
  parameterFingerprint : artifact.parameterFingerprint = expected.parameterFingerprint
  fhePublicKeyDigest : artifact.fhePublicKeyDigest = expected.fhePublicKeyDigest
  circuitDigest : artifact.circuitDigest = expected.circuitDigest
  intentDigest : artifact.embeddedEncryptionIntentDigest = intentDigest
  claimCommitment : artifact.embeddedClaimCommitment = intent.claimCommitment
  expiresAt : artifact.expiresAt.isSafeInteger = true

/-- **One unbroken chain.** One wallet signed the registration, the intent and the admission,
for one chain id, and each names what was expected, what came before it, and what the server
computed. -/
structure UnbrokenChain (runtime : OriginatedRuntime) (Signed : Text → OriginatedTypedData → Prop)
    (expected : ExpectedFinalAdmission) (chainId : ℤ) (registration : SigningKeyRegistrationMessage)
    (intent : EncryptionIntentMessage) (admission : FinalEncryptedAdmissionMessage) : Prop where
  chain : chainIdFrom expected.chainId = .ok chainId
  /-- The wallet. -/
  expectedWallet :
    runtime.getAddress expected.participantWallet = some registration.participantWallet
  intentWallet : intent.participantWallet = registration.participantWallet
  admissionWallet : admission.participantWallet = registration.participantWallet
  registered : ∃ data, signingKeyRegistrationTypedData runtime registration chainId = .ok data ∧
    Signed registration.participantWallet data ∧
    runtime.hashTypedData data = some expected.registration.registrationDigest
  intended : ∃ data, encryptionIntentTypedData runtime intent chainId = .ok data ∧
    Signed registration.participantWallet data ∧
    runtime.hashTypedData data = some expected.intent.encryptionIntentDigest
  admitted : ∃ data, finalEncryptedAdmissionTypedData runtime admission chainId = .ok data ∧
    Signed registration.participantWallet data
  /-- What each of the three names. -/
  services : registration.verifyingService = expected.verifyingService ∧
    intent.verifyingService = expected.verifyingService ∧
    admission.verifyingService = expected.verifyingService
  runs : registration.runId = expected.runId ∧ intent.runId = expected.runId ∧
    admission.runId = expected.runId
  cases : registration.fheCaseId = expected.fheCaseId ∧ intent.fheCaseId = expected.fheCaseId ∧
    admission.fheCaseId = expected.fheCaseId
  roles : registration.role = expected.role ∧ intent.role = expected.role ∧
    admission.role = expected.role
  keys : registration.participantSigningKeyDigest =
      expected.registration.participantSigningKeyDigest ∧
    intent.participantSigningKeyDigest = expected.registration.participantSigningKeyDigest ∧
    admission.participantSigningKeyDigest = expected.registration.participantSigningKeyDigest
  assets : registration.assetIdentityDigest = expected.assetIdentityDigest ∧
    registration.policyDigest = expected.policyDigest
  bundle : BundlePinned intent expected.toBundleContext
  clientBundle : admission.clientBundleDigest = expected.clientBundleDigest
  /-- The windows. -/
  issued : registration.issuedAt ≤ intent.issuedAt ∧ intent.issuedAt ≤ admission.issuedAt
  expires : admission.expiresAt ≤ intent.expiresAt ∧ intent.expiresAt ≤ registration.expiresAt
  artifactExpires :
    (Number.ofInt admission.expiresAt).le expected.artifact.expiresAt = true
  bundleExpires : (Number.ofInt admission.expiresAt).le expected.bundleExpiresAt = true
  fresh : Fresh registration.issuedAt registration.expiresAt expected.now ∧
    Fresh intent.issuedAt intent.expiresAt expected.now ∧
    Fresh admission.issuedAt admission.expiresAt expected.now
  nonces : intent.intentNonce ≠ registration.registrationNonce ∧
    admission.submissionNonce ≠ intent.intentNonce ∧
    admission.submissionNonce ≠ registration.registrationNonce
  /-- What names what came before. -/
  intentNames : intent.registrationDigest = expected.registration.registrationDigest
  admissionNames : admission.registrationDigest = expected.registration.registrationDigest ∧
    admission.encryptionIntentDigest = expected.intent.encryptionIntentDigest
  /-- What the server computed. -/
  artifact : ArtifactPinned expected.artifact intent expected.intent.encryptionIntentDigest
    expected.toBundleContext
  artifactDigest : admission.encryptedArtifactDigest = expected.artifact.encryptedArtifactDigest
  ciphertextDigest : admission.ciphertextObjectDigest = expected.artifact.ciphertextObjectDigest
  ciphertextLength :
    .ofInt admission.ciphertextObjectLength = expected.artifact.ciphertextObjectLength
  claimCommitment : admission.claimCommitment = expected.artifact.embeddedClaimCommitment
  submissionNonce : admission.submissionNonce = expected.artifact.submissionNonce
  embeddedIntent :
    admission.encryptionIntentDigest = expected.artifact.embeddedEncryptionIntentDigest

omit haddress

theorem assertArtifactMatchesIntentAndBundle_ok {artifact : RecomputedArtifact}
    {intent : EncryptionIntentMessage} {digest : Text} {expected : BundleContext} {now : Number}
    {u : Unit}
    (h : assertArtifactMatchesIntentAndBundle artifact intent digest expected now = .ok u) :
    ArtifactPinned artifact intent digest expected := by
  simp only [assertArtifactMatchesIntentAndBundle, bind_ok_iff, exists_unit, expectAll_ok_iff,
    List.forall_mem_cons, decide_eq_true_eq, List.not_mem_nil, false_imp_iff, implies_true,
    and_true, revertIf_ok_iff, not_or, Bool.not_eq_false] at h
  obtain ⟨⟨hcase, hbinding, hasset, hrole, hkey, hprofile, hfingerprint, hfhe, hcircuit, hintent,
    hclaim⟩, _, -, _, -, _, -, _, -, ⟨hsafe, -⟩, -⟩ := h
  exact ⟨hcase, hbinding, hasset, hrole, hkey, hprofile, hfingerprint, hfhe, hcircuit, hintent,
    hclaim, hsafe⟩

/-- What the verifier says of a digest at hand, the wallet signed. -/
theorem VerifiedBy.signed {Signed : Text → OriginatedTypedData → Prop}
    {AtHand : OriginatedTypedData → Prop} {phase : AuthorizationPhase} {wallet digest : Text}
    {typed : Except OriginatedThrown OriginatedTypedData}
    (hgenuine : ∀ data digest, AtHand data → runtime.hashTypedData data = some digest →
      ∀ phase address signature, verifier phase address digest signature = some true →
      ∃ other, Signed address other ∧ runtime.hashTypedData other = some digest)
    (hcollision : ∀ data digest, AtHand data → runtime.hashTypedData data = some digest →
      ∀ address other, Signed address other → runtime.hashTypedData other = some digest →
      other = data)
    (hathand : ∀ data, typed = .ok data → AtHand data)
    (h : VerifiedBy runtime verifier phase wallet digest typed) :
    ∃ data, typed = .ok data ∧ Signed wallet data ∧ runtime.hashTypedData data = some digest := by
  obtain ⟨data, signature, htyped, hhash, hverified⟩ := h
  have hdata := hathand data htyped
  obtain ⟨other, hsigned, hother⟩ :=
    hgenuine data digest hdata hhash phase wallet signature hverified
  obtain rfl := hcollision data digest hdata hhash wallet other hsigned hother
  exact ⟨other, htyped, hsigned, hhash⟩

theorem chainIdFrom_some {chainId read : ℤ}
    (h : chainIdFrom (some (.ofInt chainId)) = .ok read) : read = chainId := by
  simp only [chainIdFrom, bind_ok_iff, exists_unit, Option.getD_some, pure_ok_iff,
    bigIntOf_ofInt] at h
  exact h.2.symm

end

/-- The typed data at hand where a final admission is accepted: the stored registration's, the
stored intent's and its own. -/
def AtHand (runtime : OriginatedRuntime) (expected : ExpectedFinalAdmission)
    (verified : VerifiedFinalAdmission) (data : OriginatedTypedData) : Prop :=
  (∃ registration,
    assertSigningKeyRegistrationMessage runtime expected.registration.registration =
      .ok registration ∧
    signingKeyRegistrationTypedData runtime registration verified.chainId = .ok data) ∨
  (∃ intent, assertEncryptionIntentMessage runtime expected.intent.intent = .ok intent ∧
    encryptionIntentTypedData runtime intent verified.chainId = .ok data) ∨
  finalEncryptedAdmissionTypedData runtime verified.admission verified.chainId = .ok data

/-- **The chain is unbroken.** Where the verifier answers for signatures that wallets gave, and
no wallet signed anything else with one of the three digests at hand, whatever is accepted as a
final admission ends a chain of three. -/
theorem finalAdmission_unbroken (runtime : OriginatedRuntime)
    (Signed : Text → OriginatedTypedData → Prop) (value : Json) (expected : ExpectedFinalAdmission)
    (verifier : EoaVerifier) (guard : Option NonceGuard) (verified : VerifiedFinalAdmission)
    (haddress : ∀ text address, runtime.getAddress text = some address →
      runtime.getAddress address = some address)
    (hgenuine : ∀ data digest, AtHand runtime expected verified data →
      runtime.hashTypedData data = some digest →
      ∀ phase address signature, verifier phase address digest signature = some true →
      ∃ other, Signed address other ∧ runtime.hashTypedData other = some digest)
    (hcollision : ∀ data digest, AtHand runtime expected verified data →
      runtime.hashTypedData data = some digest →
      ∀ address other, Signed address other → runtime.hashTypedData other = some digest →
      other = data)
    (h : verifyParticipantFinalEncryptedAdmission runtime value expected verifier guard =
      .ok verified) :
    ∃ registration intent,
      assertSigningKeyRegistrationMessage runtime expected.registration.registration =
        .ok registration ∧
      assertEncryptionIntentMessage runtime expected.intent.intent = .ok intent ∧
      UnbrokenChain runtime Signed expected verified.chainId registration intent
        verified.admission := by
  simp only [verifyParticipantFinalEncryptedAdmission, bind_ok_iff, exists_unit, revertIf_ok_iff,
    expectEqual_ok_iff, decide_eq_true_eq, pure_ok_iff] at h
  obtain ⟨⟨admission, signature⟩, hrequest, chainId, hchain, intent, hintent, hstored, -,
    hartifact, hcomparisons, hwallet, hnonces, hissued, hexpires, hfresh, digest, hdigest, hsigned,
    -, rfl⟩ := h
  obtain ⟨hsame, hparsed, hclaim, registration, hverified⟩ :=
    verifyParticipantEncryptionIntent_ok haddress hintent
  obtain hsame := chainIdFrom_some hsame
  rw [hsame] at hverified
  refine ⟨registration, intent.intent, hverified.registered.parsed, hparsed, ?_⟩
  simp only [assertFinalEncryptedAdmissionRequest, bind_ok_iff, exists_unit, revertIf_ok_iff,
    pure_ok_iff, Prod.mk.injEq] at hrequest
  obtain ⟨-, -, _, hread, _, -, rfl, rfl⟩ := hrequest
  obtain ⟨text, haddressed⟩ := wallet_of_admission hread
  simp only [finalAdmissionComparisons, expectAll_ok_iff, List.forall_mem_cons,
    decide_eq_true_eq, sameNumber_iff, List.not_mem_nil, false_imp_iff, implies_true,
    and_true] at hcomparisons
  obtain ⟨hservice, hrun, hcase, hrole, hkey, hregistration, hbundle, hnamed, hcommitment,
    hartifactDigest, hciphertext, hlength, hsubmission⟩ := hcomparisons
  have hregistered := hverified.registered
  have hpinned := assertArtifactMatchesIntentAndBundle_ok hartifact
  have hadmissionWallet := wallet_of_expected haddress haddressed hwallet
  obtain ⟨data, hdata, hhash⟩ := digestOf_ok hdigest
  have hadmitted : VerifiedBy runtime verifier .finalAdmission _ digest _ :=
    ⟨data, _, hdata, hhash, assertEoaSignature_ok hsigned⟩
  have hintentWallet : intent.intent.participantWallet = registration.participantWallet :=
    Option.some.inj (hverified.wallet.symm.trans hregistered.wallet)
  have hlastWallet := Option.some.inj (hadmissionWallet.symm.trans hregistered.wallet)
  obtain ⟨data, hdata, hsignedAdmission, -⟩ :=
    hadmitted.signed hgenuine hcollision fun _ hdata => .inr (.inr hdata)
  rw [← ofInt_bigIntOf hpinned.expiresAt, ← hverified.bundle.bundleExpiresAt, not_or, not_or,
    lt_ofInt, lt_ofInt, not_lt, not_lt, not_lt] at hexpires
  obtain ⟨hexpires, hartifactExpires, hbundleExpires⟩ := hexpires
  constructor
  case chain => exact hchain
  case expectedWallet => exact hregistered.wallet
  case intentWallet => exact hintentWallet
  case admissionWallet => exact hlastWallet
  case registered =>
    exact hregistered.verified.signed hgenuine hcollision fun _ hdata =>
      .inl ⟨registration, hregistered.parsed, hdata⟩
  case intended =>
    rw [← hintentWallet, hstored]
    exact hverified.verified.signed hgenuine hcollision fun _ hdata =>
      .inr (.inl ⟨intent.intent, hparsed, hdata⟩)
  case admitted => exact ⟨data, hdata, hlastWallet ▸ hsignedAdmission⟩
  case services =>
    exact ⟨hregistered.verifyingService, hverified.verifyingService, hservice⟩
  case runs => exact ⟨hregistered.runId, hverified.bundle.runId, hrun⟩
  case cases => exact ⟨hregistered.fheCaseId, hverified.bundle.fheCaseId, hcase⟩
  case roles => exact ⟨hregistered.role, hverified.role, hrole⟩
  case keys => exact ⟨hregistered.keyDigest.symm, hverified.keyDigest, hkey⟩
  case assets => exact ⟨hregistered.assetIdentityDigest, hregistered.policyDigest⟩
  case bundle => exact hverified.bundle
  case clientBundle => exact hbundle
  case issued => exact ⟨hverified.issued, not_lt.mp (not_or.mp hissued).1⟩
  case expires => exact ⟨hexpires, hverified.expires⟩
  case artifactExpires =>
    rw [← ofInt_bigIntOf hpinned.expiresAt]
    exact le_ofInt.mpr hartifactExpires
  case bundleExpires =>
    rw [← hverified.bundle.bundleExpiresAt]
    exact le_ofInt.mpr hbundleExpires
  case fresh => exact ⟨hregistered.fresh, hverified.fresh, assertFresh_ok hfresh⟩
  case nonces =>
    obtain ⟨hintentNonce, hregistrationNonce⟩ := not_or.mp hnonces
    refine ⟨hverified.nonce, hintentNonce, ?_⟩
    exact fun h => hregistrationNonce (hregistered.nonce.trans (congrArg some h.symm))
  case intentNames => exact hverified.registrationDigest
  case admissionNames => exact ⟨hregistration, hnamed.trans hstored.symm⟩
  case artifact => exact hstored ▸ hpinned
  case artifactDigest => exact hartifactDigest
  case ciphertextDigest => exact hciphertext
  case ciphertextLength => exact hlength
  case claimCommitment => exact hcommitment.trans (hclaim.trans hpinned.claimCommitment.symm)
  case submissionNonce => exact hsubmission
  case embeddedIntent => exact hnamed.trans hpinned.intentDigest.symm

/-! ## One chain -/

namespace Sample

def bytes32 (pair : String) : Text := lit "0x" ++ (List.replicate 32 (lit pair)).flatten

def wallet : Text := lit "0xaeEa10040aBc6EF4b207f58d28f502A3D83468c0"

def keyDigest : Text := lit "0x7fa299c811af41094f58a2c3c326f3af282090ee765fb2169818d6f28d173e49"

def registrationDigest : Text :=
  lit "0x85cdcd323a349908d7cf1fc0a6e2050a16e86b4d85ac464f80068f2191f64c33"

def intentDigest : Text :=
  lit "0x0b215fb53ee5f153ffa82335fdc4856862de34d075d79bc1979a430f8b5abf49"

def admissionDigest : Text :=
  lit "0xd25ee89fb2660bfa259cdb0968c4c7d380b1804d275c446223096faaac764e0c"

def registrationSignature : Text :=
  lit ("0xe0cfe60b803b52069676f54e882425ad6eb17b8c56159cee775253c5fa65aa6f" ++
    "2f500c02e54d7c78989367e9da98c4f8fdcd02df25cb066f5bdf72028a36e37b1c")

def intentSignature : Text :=
  lit ("0xadfdde146b997d25b13c5be2190a6741304d406f1772636dfc7b8643dca61105" ++
    "2d51e1e050d07d5269b2aff3d07256de51a319babd12bd1869b2601932d4d9ce1c")

def admissionSignature : Text :=
  lit ("0xfac93f31d81d59208458d01e89d203bb8e84b51932b4a05d2d5f879a9c1570a2" ++
    "5a4a263c516044442bec273cd041ee14fc423035187c6c30dfb14f9fd6e427cb1b")

def runId : Text := lit "11111111-1111-4111-8111-111111111111"

def registration : SigningKeyRegistrationMessage where
  verifyingService := lit "mordant.example"
  runId := runId
  fheCaseId := bytes32 "c1"
  assetIdentityDigest := bytes32 "a1"
  policyDigest := bytes32 "90"
  role := .participantA
  participantWallet := wallet
  participantSigningPublicKey := bytes32 "c5"
  participantSigningKeyDigest := keyDigest
  registrationNonce := bytes32 "e1"
  issuedAt := 1784150000
  expiresAt := 1784150900

def intent : EncryptionIntentMessage where
  verifyingService := lit "mordant.example"
  runId := runId
  fheCaseId := bytes32 "c1"
  caseBindingDigest := bytes32 "c2"
  protectionBindingDigest := bytes32 "c3"
  assetIdentityDigest := bytes32 "a1"
  policyDigest := bytes32 "90"
  circuitId := lit "strict-overlap"
  circuitVersion := 1
  circuitDigest := bytes32 "d1"
  parameterProfile := lit "IdentityFullFHE256"
  parameterFingerprint := bytes32 "d2"
  fhePublicKeyDigest := bytes32 "d3"
  releaseAuthorityId := bytes32 "d4"
  releaseMode := lit "governed-decryptor-v1"
  role := .participantA
  participantWallet := wallet
  participantSigningKeyDigest := keyDigest
  registrationDigest := registrationDigest
  claimCommitment := bytes32 "d5"
  clientBundleDigest := bytes32 "b1"
  clientSourceDigest := bytes32 "b2"
  clientBuildDigest := bytes32 "b3"
  clientBinaryDigest := bytes32 "b4"
  bundleExpiresAt := 1784160000
  intentNonce := bytes32 "e2"
  issuedAt := 1784150100
  expiresAt := 1784150800

def admission : FinalEncryptedAdmissionMessage where
  verifyingService := lit "mordant.example"
  runId := runId
  fheCaseId := bytes32 "c1"
  role := .participantA
  participantWallet := wallet
  participantSigningKeyDigest := keyDigest
  registrationDigest := registrationDigest
  clientBundleDigest := bytes32 "b1"
  encryptionIntentDigest := intentDigest
  claimCommitment := bytes32 "d5"
  encryptedArtifactDigest := bytes32 "f1"
  ciphertextObjectDigest := bytes32 "f2"
  ciphertextObjectLength := 1048576
  submissionNonce := bytes32 "e3"
  issuedAt := 1784150200
  expiresAt := 1784150700

/-- What the three structs are hashed as. -/
def typedOf (name salt primaryType : String) (message : OriginatedMessage) :
    OriginatedTypedData :=
  ⟨lit name, lit "1", 10143, lit salt, lit primaryType, message⟩

def registrationData : OriginatedTypedData :=
  typedOf "Mordant Participant Signing Key Registration"
    "0xb2370b123be100acb65d580de3833ad3192bf2f80e9733a64b0040202f3389be"
    "ParticipantSigningKeyRegistrationV1" (.registration registration)

def intentData : OriginatedTypedData :=
  typedOf "Mordant Participant Encryption Intent"
    "0xc216f52113fad396755a4853f2e6814bab5dbd610ef8206a116ae0acaf6ba502"
    "ParticipantEncryptionIntentV1" (.intent intent)

def admissionData : OriginatedTypedData :=
  typedOf "Mordant Participant Encrypted Admission"
    "0x50ea7a47d9bd65e4c83a4f8453261b5b83235e73f507631aa8a8f0d5b57e4914"
    "ParticipantEncryptedAdmissionV1" (.finalAdmission admission)

/-- The three that the wallet signed, with their digests and signatures. -/
def signatures : List (OriginatedTypedData × Text × Text) :=
  [(registrationData, registrationDigest, registrationSignature),
    (intentData, intentDigest, intentSignature),
    (admissionData, admissionDigest, admissionSignature)]

def originatedRuntime : OriginatedRuntime where
  sha256Bytes _ := keyDigest.drop 2
  numberText value := stringifyInt value.num
  keccakText text :=
    if text = signingKeyRegistrationSchema then registrationData.salt
    else if text = encryptionIntentSchema then intentData.salt
    else admissionData.salt
  getAddress text := if isAddressText text then some text else none
  hashTypedData data := (signatures.find? fun entry => entry.1 = data).map fun entry => entry.2.1
  recoverAddress digest signature :=
    if signatures.any fun entry => entry.2 = (digest, signature) then some wallet else none

def expected : ExpectedFinalAdmission where
  runId := runId
  fheCaseId := bytes32 "c1"
  caseBindingDigest := bytes32 "c2"
  protectionBindingDigest := bytes32 "c3"
  assetIdentityDigest := bytes32 "a1"
  policyDigest := bytes32 "90"
  circuitId := lit "strict-overlap"
  circuitVersion := .ofInt 1
  circuitDigest := bytes32 "d1"
  parameterProfile := lit "IdentityFullFHE256"
  parameterFingerprint := bytes32 "d2"
  fhePublicKeyDigest := bytes32 "d3"
  releaseAuthorityId := bytes32 "d4"
  releaseMode := lit "governed-decryptor-v1"
  clientBundleDigest := bytes32 "b1"
  clientSourceDigest := bytes32 "b2"
  clientBuildDigest := bytes32 "b3"
  clientBinaryDigest := bytes32 "b4"
  bundleExpiresAt := .ofInt 1784160000
  verifyingService := lit "mordant.example"
  role := .participantA
  participantWallet := wallet
  registration :=
    { schemaVersion := signingKeyRegistrationSchema
      registration := registration.json
      registrationDigest := registrationDigest
      signature := .text registrationSignature
      role := .participantA
      participantWallet := wallet
      participantSigningPublicKey := bytes32 "c5"
      participantSigningKeyDigest := keyDigest
      chainId := .ofInt 10143 }
  now := .ofInt 1784150300
  chainId := none
  intent :=
    { schemaVersion := encryptionIntentSchema
      intent := intent.json
      encryptionIntentDigest := intentDigest
      signature := .text intentSignature
      chainId := .ofInt 10143 }
  artifact :=
    { encryptedArtifactDigest := bytes32 "f1"
      ciphertextObjectDigest := bytes32 "f2"
      ciphertextObjectLength := .ofInt 1048576
      fheCaseId := bytes32 "c1"
      caseBindingDigest := bytes32 "c2"
      assetIdentityDigest := bytes32 "a1"
      role := .participantA
      participantSigningKeyDigest := keyDigest
      parameterProfile := lit "IdentityFullFHE256"
      parameterFingerprint := bytes32 "d2"
      fhePublicKeyDigest := bytes32 "d3"
      circuitDigest := bytes32 "d1"
      submissionNonce := bytes32 "e3"
      expiresAt := .ofInt 1784155000
      embeddedEncryptionIntentDigest := intentDigest
      embeddedClaimCommitment := bytes32 "d5" }

def request : Json :=
  .object [(lit "schemaVersion", .text finalEncryptedAdmissionSchema),
    (lit "admission", admission.json), (lit "signature", .text admissionSignature)]

/-- The wallet signed those three. -/
def Signed (address : Text) (data : OriginatedTypedData) : Prop :=
  address = wallet ∧ ∃ entry ∈ signatures, entry.1 = data

theorem signatures_hashed : ∀ entry ∈ signatures,
    originatedRuntime.hashTypedData entry.1 = some entry.2.1 := by
  decide +kernel

theorem signatures_distinct : ∀ entry ∈ signatures, ∀ other ∈ signatures,
    entry.2.1 = other.2.1 → entry.1 = other.1 := by
  decide +kernel

/-- What has a digest is one of the three. -/
theorem signed_of_hash {data : OriginatedTypedData} {digest : Text}
    (h : originatedRuntime.hashTypedData data = some digest) :
    ∃ entry ∈ signatures, entry.1 = data ∧ entry.2.1 = digest := by
  obtain ⟨entry, hfind, hdigest⟩ := Option.map_eq_some_iff.mp h
  obtain ⟨hsame, before, after, hsplit, -⟩ := List.find?_eq_some_iff_append.mp hfind
  refine ⟨entry, ?_, of_decide_eq_true hsame, hdigest⟩
  rw [hsplit]
  exact List.mem_append_right _ List.mem_cons_self

theorem getAddress_idempotent (text address : Text)
    (h : originatedRuntime.getAddress text = some address) :
    originatedRuntime.getAddress address = some address := by
  have hsame : text = address := by
    by_cases htext : isAddressText text = true
    · exact Option.some.inj ((if_pos htext).symm.trans h)
    · exact nomatch (if_neg htext).symm.trans h
  exact hsame ▸ h

theorem genuine (phase : AuthorizationPhase) (address digest signature : Text)
    (h : verifyEoaSignature originatedRuntime phase address digest signature = some true) :
    ∃ data, Signed address data ∧ originatedRuntime.hashTypedData data = some digest := by
  by_cases hany : signatures.any (fun entry => entry.2 = (digest, signature)) = true
  · have hrecovered : originatedRuntime.recoverAddress digest signature = some wallet :=
      if_pos hany
    have hsame : sameWallet originatedRuntime wallet address = true := by
      rw [verifyEoaSignature, hrecovered] at h
      exact Option.some.inj h
    have hwallet : originatedRuntime.getAddress wallet = some wallet := by decide +kernel
    rw [sameWallet, hwallet] at hsame
    obtain ⟨entry, hentry, hpair⟩ := List.any_eq_true.mp hany
    refine ⟨entry.1, ⟨?_, entry, hentry, rfl⟩, ?_⟩
    · by_cases haddress : isAddressText address = true
      · have hread : originatedRuntime.getAddress address = some address := if_pos haddress
        rw [hread] at hsame
        exact (of_decide_eq_true hsame).symm
      · have hread : originatedRuntime.getAddress address = none := if_neg haddress
        rw [hread] at hsame
        exact nomatch hsame
    · rw [signatures_hashed entry hentry, of_decide_eq_true hpair]
  · have hrecovered : originatedRuntime.recoverAddress digest signature = none := if_neg hany
    rw [verifyEoaSignature, hrecovered] at h
    exact nomatch h

theorem collision_free {data other : OriginatedTypedData} {digest : Text}
    (hdata : originatedRuntime.hashTypedData data = some digest)
    (hother : originatedRuntime.hashTypedData other = some digest) : other = data := by
  obtain ⟨entry, hentry, rfl, hdigest⟩ := signed_of_hash hdata
  obtain ⟨entry', hentry', rfl, hdigest'⟩ := signed_of_hash hother
  exact signatures_distinct entry' hentry' entry hentry (hdigest'.trans hdigest.symm)

end Sample

theorem finalAdmission_unbroken_sample :
    ∃ verified, verifyParticipantFinalEncryptedAdmission Sample.originatedRuntime Sample.request
        Sample.expected (verifyEoaSignature Sample.originatedRuntime) none = .ok verified ∧
      ∃ registration intent,
        assertSigningKeyRegistrationMessage Sample.originatedRuntime
          Sample.expected.registration.registration = .ok registration ∧
        assertEncryptionIntentMessage Sample.originatedRuntime Sample.expected.intent.intent =
          .ok intent ∧
        UnbrokenChain Sample.originatedRuntime Sample.Signed Sample.expected verified.chainId
          registration intent verified.admission := by
  obtain ⟨verified, hverified⟩ := toBool_eq_true_iff.mp
    (show (verifyParticipantFinalEncryptedAdmission Sample.originatedRuntime Sample.request
      Sample.expected (verifyEoaSignature Sample.originatedRuntime) none).toBool = true by
        decide +kernel)
  exact ⟨verified, hverified, finalAdmission_unbroken _ _ _ _ _ _ _ Sample.getAddress_idempotent
    (fun _ digest _ _ phase address signature =>
      Sample.genuine phase address digest signature)
    (fun _ _ _ hdata _ _ _ => Sample.collision_free hdata) hverified⟩

end Mordant.Protection.Originated
