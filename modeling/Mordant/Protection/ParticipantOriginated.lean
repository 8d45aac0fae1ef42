/-
# What a participant of the native profile signs

Three structs, one after another: the wallet registers a signing key, authorizes an
encryption against one bundle, and authorizes the artifact that came out.  Each is parsed
exactly before it is looked at, and each is hashed with a domain of its own.
-/

import Mathlib.Algebra.Group.Int.Defs
import Mordant.Protection.ParticipantAuthorization

namespace Mordant.Protection.Originated

open Foundation Script

/-- What the module throws. -/
inductive OriginatedThrown
  /-- A `ParticipantOriginatedAuthorizationError`. -/
  | authorization (code : String) (status : ℕ) (message : String)
  /-- What the canonical encoder throws. -/
  | strictJson (error : StrictJsonError)
  /-- What the wallet library throws. -/
  | library
  deriving DecidableEq

def participantOriginatedChainId : ℤ := 10143

/-- `PARTICIPANT_ORIGINATED_AUTHORIZATION_MAX_LIFETIME_SECONDS`. -/
def authorizationMaxLifetimeSeconds : ℤ := 15 * 60

/-- `PARTICIPANT_ORIGINATED_AUTHORIZATION_CLOCK_SKEW_SECONDS`. -/
def authorizationClockSkewSeconds : ℤ := 120

/-- `PARTICIPANT_ORIGINATED_CIPHERTEXT_MAX_BYTES`. -/
def ciphertextMaxBytes : ℤ := 192 * 2 ^ 20

def signingKeyRegistrationSchema : Text := lit "mordant.participant-signing-key-registration/1"
def encryptionIntentSchema : Text := lit "mordant.participant-encryption-intent/1"
def finalEncryptedAdmissionSchema : Text := lit "mordant.participant-encrypted-admission/1"

/-! ## Reading a value -/

/-- `exactKeys`, of a value that was parsed. -/
def exactKeys (value : Json) (expected : List String) : Bool :=
  value.isObject && value.hasExactKeys expected

/-- A safe integer that passes a test. -/
def readInteger (test : ℤ → Bool) (value : Option Json) (thrown : OriginatedThrown) :
    Except OriginatedThrown ℤ :=
  match value with
  | some (.number n) =>
    if n.isSafeInteger && test (bigIntOf n) then .ok (bigIntOf n) else .error thrown
  | _ => .error thrown

/-- `BOUNDED_TEXT`. -/
def isBoundedText (text : Text) : Bool := text.all fun unit => 0x20 ≤ unit && unit ≤ 0x7e

def exactText (value : Option Json) (code label : String) : Except OriginatedThrown Text :=
  readText (fun text => text.length ≠ 0 && text.length ≤ 255 && isBoundedText text) value
    (.authorization code 400
      (label ++ " must be non-empty printable ASCII of at most 255 characters"))

def exactRunId (value : Option Json) (code : String) : Except OriginatedThrown Text :=
  readText isRunId value (.authorization code 400 "runId must be a lowercase UUID")

/-- Thirty-two zero bytes. -/
def zeroBytes32 : Text := lit "0x" ++ List.replicate 64 0x30

def exactBytes32 (value : Option Json) (code label : String) : Except OriginatedThrown Text :=
  readText (fun text => isBytes32Text text && text ≠ zeroBytes32) value
    (.authorization code 400 (label ++ " must be a non-zero lowercase 32-byte value"))

def exactRole (value : Option Json) (code : String) : Except OriginatedThrown ParticipantRole :=
  require (.authorization code 400 "role must be PARTICIPANT_A or PARTICIPANT_B")
    ((value.bind Json.asText).bind ParticipantRole.ofText?)

def exactPositiveInteger (value : Option Json) (code label : String) (maximum : ℤ) :
    Except OriginatedThrown ℤ :=
  readInteger (fun n => 0 < n && n ≤ maximum) value
    (.authorization code 400 (label ++ " must be a bounded positive whole number"))

/-- `STRICT_EOA_SIGNATURE`. -/
def isEoaSignature (text : Text) : Bool := matchesDigits isHexDigit "0x" 130 text

def exactSignature (value : Option Json) : Except OriginatedThrown Text :=
  readText isEoaSignature value
    (.authorization "SIGNATURE_FORMAT" 400 "A canonical 65-byte EOA signature is required")

def assertAuthorizationWindow (issuedAt expiresAt : ℤ) : Except OriginatedThrown Unit := do
  revertIf (expiresAt ≤ issuedAt) (.authorization "AUTHORIZATION_WINDOW" 400
    "expiresAt must be strictly after issuedAt")
  revertIf (authorizationMaxLifetimeSeconds < expiresAt - issuedAt)
    (.authorization "AUTHORIZATION_LIFETIME" 400 "The authorization lifetime is too long")

/-! ## The structs -/

/-- `ParticipantSigningKeyRegistrationMessage`. -/
structure SigningKeyRegistrationMessage where
  verifyingService : Text
  runId : Text
  fheCaseId : Text
  assetIdentityDigest : Text
  policyDigest : Text
  role : ParticipantRole
  participantWallet : Text
  participantSigningPublicKey : Text
  participantSigningKeyDigest : Text
  registrationNonce : Text
  issuedAt : ℤ
  expiresAt : ℤ
  deriving DecidableEq

/-- `ParticipantEncryptionIntentMessage`. -/
structure EncryptionIntentMessage where
  verifyingService : Text
  runId : Text
  fheCaseId : Text
  caseBindingDigest : Text
  protectionBindingDigest : Text
  assetIdentityDigest : Text
  policyDigest : Text
  circuitId : Text
  circuitVersion : ℤ
  circuitDigest : Text
  parameterProfile : Text
  parameterFingerprint : Text
  fhePublicKeyDigest : Text
  releaseAuthorityId : Text
  releaseMode : Text
  role : ParticipantRole
  participantWallet : Text
  participantSigningKeyDigest : Text
  registrationDigest : Text
  claimCommitment : Text
  clientBundleDigest : Text
  clientSourceDigest : Text
  clientBuildDigest : Text
  clientBinaryDigest : Text
  bundleExpiresAt : ℤ
  intentNonce : Text
  issuedAt : ℤ
  expiresAt : ℤ
  deriving DecidableEq

/-- `ParticipantFinalEncryptedAdmissionMessage`. -/
structure FinalEncryptedAdmissionMessage where
  verifyingService : Text
  runId : Text
  fheCaseId : Text
  role : ParticipantRole
  participantWallet : Text
  participantSigningKeyDigest : Text
  registrationDigest : Text
  clientBundleDigest : Text
  encryptionIntentDigest : Text
  claimCommitment : Text
  encryptedArtifactDigest : Text
  ciphertextObjectDigest : Text
  ciphertextObjectLength : ℤ
  submissionNonce : Text
  issuedAt : ℤ
  expiresAt : ℤ
  deriving DecidableEq

/-- A registration, as it is sent and stored. -/
def SigningKeyRegistrationMessage.json (message : SigningKeyRegistrationMessage) : Json :=
  .object
    [(lit "verifyingService", .text message.verifyingService),
      (lit "runId", .text message.runId),
      (lit "fheCaseId", .text message.fheCaseId),
      (lit "assetIdentityDigest", .text message.assetIdentityDigest),
      (lit "policyDigest", .text message.policyDigest),
      (lit "role", .text (lit message.role.text)),
      (lit "participantWallet", .text message.participantWallet),
      (lit "participantSigningPublicKey", .text message.participantSigningPublicKey),
      (lit "participantSigningKeyDigest", .text message.participantSigningKeyDigest),
      (lit "registrationNonce", .text message.registrationNonce),
      (lit "issuedAt", .number (.ofInt message.issuedAt)),
      (lit "expiresAt", .number (.ofInt message.expiresAt))]

/-- An intent, as it is sent and stored. -/
def EncryptionIntentMessage.json (message : EncryptionIntentMessage) : Json :=
  .object
    [(lit "verifyingService", .text message.verifyingService),
      (lit "runId", .text message.runId),
      (lit "fheCaseId", .text message.fheCaseId),
      (lit "caseBindingDigest", .text message.caseBindingDigest),
      (lit "protectionBindingDigest", .text message.protectionBindingDigest),
      (lit "assetIdentityDigest", .text message.assetIdentityDigest),
      (lit "policyDigest", .text message.policyDigest),
      (lit "circuitId", .text message.circuitId),
      (lit "circuitVersion", .number (.ofInt message.circuitVersion)),
      (lit "circuitDigest", .text message.circuitDigest),
      (lit "parameterProfile", .text message.parameterProfile),
      (lit "parameterFingerprint", .text message.parameterFingerprint),
      (lit "fhePublicKeyDigest", .text message.fhePublicKeyDigest),
      (lit "releaseAuthorityId", .text message.releaseAuthorityId),
      (lit "releaseMode", .text message.releaseMode),
      (lit "role", .text (lit message.role.text)),
      (lit "participantWallet", .text message.participantWallet),
      (lit "participantSigningKeyDigest", .text message.participantSigningKeyDigest),
      (lit "registrationDigest", .text message.registrationDigest),
      (lit "claimCommitment", .text message.claimCommitment),
      (lit "clientBundleDigest", .text message.clientBundleDigest),
      (lit "clientSourceDigest", .text message.clientSourceDigest),
      (lit "clientBuildDigest", .text message.clientBuildDigest),
      (lit "clientBinaryDigest", .text message.clientBinaryDigest),
      (lit "bundleExpiresAt", .number (.ofInt message.bundleExpiresAt)),
      (lit "intentNonce", .text message.intentNonce),
      (lit "issuedAt", .number (.ofInt message.issuedAt)),
      (lit "expiresAt", .number (.ofInt message.expiresAt))]

/-- A final admission, as it is sent. -/
def FinalEncryptedAdmissionMessage.json (message : FinalEncryptedAdmissionMessage) : Json :=
  .object
    [(lit "verifyingService", .text message.verifyingService),
      (lit "runId", .text message.runId),
      (lit "fheCaseId", .text message.fheCaseId),
      (lit "role", .text (lit message.role.text)),
      (lit "participantWallet", .text message.participantWallet),
      (lit "participantSigningKeyDigest", .text message.participantSigningKeyDigest),
      (lit "registrationDigest", .text message.registrationDigest),
      (lit "clientBundleDigest", .text message.clientBundleDigest),
      (lit "encryptionIntentDigest", .text message.encryptionIntentDigest),
      (lit "claimCommitment", .text message.claimCommitment),
      (lit "encryptedArtifactDigest", .text message.encryptedArtifactDigest),
      (lit "ciphertextObjectDigest", .text message.ciphertextObjectDigest),
      (lit "ciphertextObjectLength", .number (.ofInt message.ciphertextObjectLength)),
      (lit "submissionNonce", .text message.submissionNonce),
      (lit "issuedAt", .number (.ofInt message.issuedAt)),
      (lit "expiresAt", .number (.ofInt message.expiresAt))]

/-- A struct of any phase. -/
inductive OriginatedMessage
  | registration (message : SigningKeyRegistrationMessage)
  | intent (message : EncryptionIntentMessage)
  | finalAdmission (message : FinalEncryptedAdmissionMessage)
  deriving DecidableEq

/-- The typed data of a phase. Its types are those of the primary type. -/
structure OriginatedTypedData where
  name : Text
  version : Text
  chainId : ℤ
  salt : Text
  primaryType : Text
  message : OriginatedMessage
  deriving DecidableEq

/-- What the libraries supply. -/
structure OriginatedRuntime where
  /-- `createHash("sha256").update(buffer).digest("hex")`. -/
  sha256Bytes : List UInt8 → Text
  /-- `JSON.stringify` of a finite number. -/
  numberText : ℚ → Text
  /-- `keccak256(toHex(text))`. -/
  keccakText : Text → Text
  /-- `getAddress`, which throws for what is no address. -/
  getAddress : Text → Option Text
  /-- `hashTypedData`, which throws for what the types do not allow. -/
  hashTypedData : OriginatedTypedData → Option Text
  /-- `recoverAddress`, which throws for what is no signature. -/
  recoverAddress : Text → Text → Option Text

section

variable (runtime : OriginatedRuntime)

def exactWallet (value : Option Json) (code : String) : Except OriginatedThrown Text := do
  let thrown := .authorization code 400 "participantWallet must be a 0x address"
  let wallet ← readText isAddressText value thrown
  require thrown (runtime.getAddress wallet)

def sha256ExactBytes (bytes : List UInt8) : Text := lit "0x" ++ runtime.sha256Bytes bytes

def participantSigningPublicKeyDigest (publicKey : Text) : Except OriginatedThrown Text := do
  let exact ← exactBytes32 (some (.text publicKey)) "SIGNING_PUBLIC_KEY"
    "participantSigningPublicKey"
  pure (sha256ExactBytes runtime (hexBytes (exact.drop 2)))

/-- `assertParticipantSigningKeyRegistrationMessage`. -/
def assertSigningKeyRegistrationMessage (value : Json) :
    Except OriginatedThrown SigningKeyRegistrationMessage := do
  revertIf (exactKeys value ["verifyingService", "runId", "fheCaseId", "assetIdentityDigest",
      "policyDigest", "role", "participantWallet", "participantSigningPublicKey",
      "participantSigningKeyDigest", "registrationNonce", "issuedAt", "expiresAt"] = false)
    (.authorization "REGISTRATION_MEMBERS" 400
      "The signing-key registration members are not exact")
  let participantSigningPublicKey ← exactBytes32 (value.get "participantSigningPublicKey")
    "REGISTRATION_SIGNING_PUBLIC_KEY" "participantSigningPublicKey"
  let participantSigningKeyDigest ← exactBytes32 (value.get "participantSigningKeyDigest")
    "REGISTRATION_SIGNING_KEY_DIGEST" "participantSigningKeyDigest"
  let hashed ← participantSigningPublicKeyDigest runtime participantSigningPublicKey
  revertIf (hashed ≠ participantSigningKeyDigest)
    (.authorization "REGISTRATION_SIGNING_KEY_DIGEST" 400
      "participantSigningKeyDigest does not hash the supplied Ed25519 public key")
  let issuedAt ← exactPositiveInteger (value.get "issuedAt") "REGISTRATION_ISSUED_AT" "issuedAt"
    Number.maxSafeInteger
  let expiresAt ← exactPositiveInteger (value.get "expiresAt") "REGISTRATION_EXPIRES_AT"
    "expiresAt" Number.maxSafeInteger
  assertAuthorizationWindow issuedAt expiresAt
  let verifyingService ←
    exactText (value.get "verifyingService") "REGISTRATION_SERVICE" "verifyingService"
  let runId ← exactRunId (value.get "runId") "REGISTRATION_RUN_ID"
  let fheCaseId ← exactBytes32 (value.get "fheCaseId") "REGISTRATION_FHE_CASE_ID" "fheCaseId"
  let assetIdentityDigest ←
    exactBytes32 (value.get "assetIdentityDigest") "REGISTRATION_ASSET" "assetIdentityDigest"
  let policyDigest ←
    exactBytes32 (value.get "policyDigest") "REGISTRATION_POLICY" "policyDigest"
  let role ← exactRole (value.get "role") "REGISTRATION_ROLE"
  let participantWallet ←
    exactWallet runtime (value.get "participantWallet") "REGISTRATION_WALLET"
  let registrationNonce ←
    exactBytes32 (value.get "registrationNonce") "REGISTRATION_NONCE" "registrationNonce"
  pure
    { verifyingService, runId, fheCaseId, assetIdentityDigest, policyDigest, role,
      participantWallet, participantSigningPublicKey, participantSigningKeyDigest,
      registrationNonce, issuedAt, expiresAt }

/-- `assertParticipantEncryptionIntentMessage`. -/
def assertEncryptionIntentMessage (value : Json) :
    Except OriginatedThrown EncryptionIntentMessage := do
  revertIf (exactKeys value ["verifyingService", "runId", "fheCaseId", "caseBindingDigest",
      "protectionBindingDigest", "assetIdentityDigest", "policyDigest", "circuitId",
      "circuitVersion", "circuitDigest", "parameterProfile", "parameterFingerprint",
      "fhePublicKeyDigest", "releaseAuthorityId", "releaseMode", "role", "participantWallet",
      "participantSigningKeyDigest", "registrationDigest", "claimCommitment",
      "clientBundleDigest", "clientSourceDigest", "clientBuildDigest", "clientBinaryDigest",
      "bundleExpiresAt", "intentNonce", "issuedAt", "expiresAt"] = false)
    (.authorization "INTENT_MEMBERS" 400 "The encryption-intent members are not exact")
  let issuedAt ← exactPositiveInteger (value.get "issuedAt") "INTENT_ISSUED_AT" "issuedAt"
    Number.maxSafeInteger
  let expiresAt ← exactPositiveInteger (value.get "expiresAt") "INTENT_EXPIRES_AT" "expiresAt"
    Number.maxSafeInteger
  let bundleExpiresAt ← exactPositiveInteger (value.get "bundleExpiresAt")
    "INTENT_BUNDLE_EXPIRES_AT" "bundleExpiresAt" Number.maxSafeInteger
  assertAuthorizationWindow issuedAt expiresAt
  revertIf (bundleExpiresAt < expiresAt) (.authorization "INTENT_BUNDLE_EXPIRY" 400
    "The encryption intent cannot outlive its client bundle")
  let verifyingService ←
    exactText (value.get "verifyingService") "INTENT_SERVICE" "verifyingService"
  let runId ← exactRunId (value.get "runId") "INTENT_RUN_ID"
  let fheCaseId ← exactBytes32 (value.get "fheCaseId") "INTENT_FHE_CASE_ID" "fheCaseId"
  let caseBindingDigest ←
    exactBytes32 (value.get "caseBindingDigest") "INTENT_CASE_BINDING" "caseBindingDigest"
  let protectionBindingDigest ← exactBytes32 (value.get "protectionBindingDigest")
    "INTENT_PROTECTION_BINDING" "protectionBindingDigest"
  let assetIdentityDigest ←
    exactBytes32 (value.get "assetIdentityDigest") "INTENT_ASSET" "assetIdentityDigest"
  let policyDigest ← exactBytes32 (value.get "policyDigest") "INTENT_POLICY" "policyDigest"
  let circuitId ← exactText (value.get "circuitId") "INTENT_CIRCUIT_ID" "circuitId"
  let circuitVersion ← exactPositiveInteger (value.get "circuitVersion")
    "INTENT_CIRCUIT_VERSION" "circuitVersion" 0xffffffff
  let circuitDigest ←
    exactBytes32 (value.get "circuitDigest") "INTENT_CIRCUIT_DIGEST" "circuitDigest"
  let parameterProfile ←
    exactText (value.get "parameterProfile") "INTENT_PARAMETER_PROFILE" "parameterProfile"
  let parameterFingerprint ← exactBytes32 (value.get "parameterFingerprint")
    "INTENT_PARAMETER_FINGERPRINT" "parameterFingerprint"
  let fhePublicKeyDigest ←
    exactBytes32 (value.get "fhePublicKeyDigest") "INTENT_FHE_PUBLIC_KEY" "fhePublicKeyDigest"
  let releaseAuthorityId ← exactBytes32 (value.get "releaseAuthorityId")
    "INTENT_RELEASE_AUTHORITY" "releaseAuthorityId"
  let releaseMode ← exactText (value.get "releaseMode") "INTENT_RELEASE_MODE" "releaseMode"
  let role ← exactRole (value.get "role") "INTENT_ROLE"
  let participantWallet ← exactWallet runtime (value.get "participantWallet") "INTENT_WALLET"
  let participantSigningKeyDigest ← exactBytes32 (value.get "participantSigningKeyDigest")
    "INTENT_SIGNING_KEY" "participantSigningKeyDigest"
  let registrationDigest ← exactBytes32 (value.get "registrationDigest")
    "INTENT_REGISTRATION_DIGEST" "registrationDigest"
  let claimCommitment ←
    exactBytes32 (value.get "claimCommitment") "INTENT_CLAIM_COMMITMENT" "claimCommitment"
  let clientBundleDigest ←
    exactBytes32 (value.get "clientBundleDigest") "INTENT_CLIENT_BUNDLE" "clientBundleDigest"
  let clientSourceDigest ←
    exactBytes32 (value.get "clientSourceDigest") "INTENT_CLIENT_SOURCE" "clientSourceDigest"
  let clientBuildDigest ←
    exactBytes32 (value.get "clientBuildDigest") "INTENT_CLIENT_BUILD" "clientBuildDigest"
  let clientBinaryDigest ←
    exactBytes32 (value.get "clientBinaryDigest") "INTENT_CLIENT_BINARY" "clientBinaryDigest"
  let intentNonce ← exactBytes32 (value.get "intentNonce") "INTENT_NONCE" "intentNonce"
  pure
    { verifyingService, runId, fheCaseId, caseBindingDigest, protectionBindingDigest,
      assetIdentityDigest, policyDigest, circuitId, circuitVersion, circuitDigest,
      parameterProfile, parameterFingerprint, fhePublicKeyDigest, releaseAuthorityId,
      releaseMode, role, participantWallet, participantSigningKeyDigest, registrationDigest,
      claimCommitment, clientBundleDigest, clientSourceDigest, clientBuildDigest,
      clientBinaryDigest, bundleExpiresAt, intentNonce, issuedAt, expiresAt }

/-- `assertParticipantFinalEncryptedAdmissionMessage`. -/
def assertFinalEncryptedAdmissionMessage (value : Json) :
    Except OriginatedThrown FinalEncryptedAdmissionMessage := do
  revertIf (exactKeys value ["verifyingService", "runId", "fheCaseId", "role",
      "participantWallet", "participantSigningKeyDigest", "registrationDigest",
      "clientBundleDigest", "encryptionIntentDigest", "claimCommitment",
      "encryptedArtifactDigest", "ciphertextObjectDigest", "ciphertextObjectLength",
      "submissionNonce", "issuedAt", "expiresAt"] = false)
    (.authorization "FINAL_ADMISSION_MEMBERS" 400
      "The final encrypted-admission members are not exact")
  let issuedAt ← exactPositiveInteger (value.get "issuedAt") "FINAL_ADMISSION_ISSUED_AT"
    "issuedAt" Number.maxSafeInteger
  let expiresAt ← exactPositiveInteger (value.get "expiresAt") "FINAL_ADMISSION_EXPIRES_AT"
    "expiresAt" Number.maxSafeInteger
  assertAuthorizationWindow issuedAt expiresAt
  let verifyingService ←
    exactText (value.get "verifyingService") "FINAL_ADMISSION_SERVICE" "verifyingService"
  let runId ← exactRunId (value.get "runId") "FINAL_ADMISSION_RUN_ID"
  let fheCaseId ←
    exactBytes32 (value.get "fheCaseId") "FINAL_ADMISSION_FHE_CASE_ID" "fheCaseId"
  let role ← exactRole (value.get "role") "FINAL_ADMISSION_ROLE"
  let participantWallet ←
    exactWallet runtime (value.get "participantWallet") "FINAL_ADMISSION_WALLET"
  let participantSigningKeyDigest ← exactBytes32 (value.get "participantSigningKeyDigest")
    "FINAL_ADMISSION_SIGNING_KEY" "participantSigningKeyDigest"
  let registrationDigest ← exactBytes32 (value.get "registrationDigest")
    "FINAL_ADMISSION_REGISTRATION_DIGEST" "registrationDigest"
  let clientBundleDigest ← exactBytes32 (value.get "clientBundleDigest")
    "FINAL_ADMISSION_CLIENT_BUNDLE" "clientBundleDigest"
  let encryptionIntentDigest ← exactBytes32 (value.get "encryptionIntentDigest")
    "FINAL_ADMISSION_INTENT_DIGEST" "encryptionIntentDigest"
  let claimCommitment ← exactBytes32 (value.get "claimCommitment")
    "FINAL_ADMISSION_CLAIM_COMMITMENT" "claimCommitment"
  let encryptedArtifactDigest ← exactBytes32 (value.get "encryptedArtifactDigest")
    "FINAL_ADMISSION_ARTIFACT_DIGEST" "encryptedArtifactDigest"
  let ciphertextObjectDigest ← exactBytes32 (value.get "ciphertextObjectDigest")
    "FINAL_ADMISSION_CIPHERTEXT_DIGEST" "ciphertextObjectDigest"
  let ciphertextObjectLength ← exactPositiveInteger (value.get "ciphertextObjectLength")
    "FINAL_ADMISSION_CIPHERTEXT_LENGTH" "ciphertextObjectLength" ciphertextMaxBytes
  let submissionNonce ← exactBytes32 (value.get "submissionNonce")
    "FINAL_ADMISSION_SUBMISSION_NONCE" "submissionNonce"
  pure
    { verifyingService, runId, fheCaseId, role, participantWallet, participantSigningKeyDigest,
      registrationDigest, clientBundleDigest, encryptionIntentDigest, claimCommitment,
      encryptedArtifactDigest, ciphertextObjectDigest, ciphertextObjectLength, submissionNonce,
      issuedAt, expiresAt }

end

/-! ## The typed data -/

section

variable (runtime : OriginatedRuntime)

/-- `domain`, and the typed data that has it. -/
def typedData (name : String) (schema : Text) (primaryType : String) (chainId : ℤ)
    (message : OriginatedMessage) : Except OriginatedThrown OriginatedTypedData := do
  revertIf (chainId ≤ 0 ∨ Number.maxSafeInteger < chainId)
    (.authorization "CHAIN_ID" 500 "A positive EIP-712 chain ID is required")
  pure
    { name := lit name
      version := lit "1"
      chainId := chainId
      salt := runtime.keccakText schema
      primaryType := lit primaryType
      message := message }

/-- `participantSigningKeyRegistrationTypedData`. -/
def signingKeyRegistrationTypedData (message : SigningKeyRegistrationMessage) (chainId : ℤ) :
    Except OriginatedThrown OriginatedTypedData :=
  typedData runtime "Mordant Participant Signing Key Registration" signingKeyRegistrationSchema
    "ParticipantSigningKeyRegistrationV1" chainId (.registration message)

/-- `participantEncryptionIntentTypedData`. -/
def encryptionIntentTypedData (message : EncryptionIntentMessage) (chainId : ℤ) :
    Except OriginatedThrown OriginatedTypedData :=
  typedData runtime "Mordant Participant Encryption Intent" encryptionIntentSchema
    "ParticipantEncryptionIntentV1" chainId (.intent message)

/-- `participantFinalEncryptedAdmissionTypedData`. -/
def finalEncryptedAdmissionTypedData (message : FinalEncryptedAdmissionMessage) (chainId : ℤ) :
    Except OriginatedThrown OriginatedTypedData :=
  typedData runtime "Mordant Participant Encrypted Admission" finalEncryptedAdmissionSchema
    "ParticipantEncryptedAdmissionV1" chainId (.finalAdmission message)

/-- `hashTypedData` of what a builder returns. -/
def digestOf (typed : Except OriginatedThrown OriginatedTypedData) :
    Except OriginatedThrown Text := do
  require .library (runtime.hashTypedData (← typed))

/-- `participantSigningKeyRegistrationDigest`. -/
def signingKeyRegistrationDigest (message : SigningKeyRegistrationMessage) (chainId : ℤ) :
    Except OriginatedThrown Text :=
  digestOf runtime (signingKeyRegistrationTypedData runtime message chainId)

/-- `participantEncryptionIntentDigest`. -/
def encryptionIntentDigest (message : EncryptionIntentMessage) (chainId : ℤ) :
    Except OriginatedThrown Text :=
  digestOf runtime (encryptionIntentTypedData runtime message chainId)

/-- `participantFinalEncryptedAdmissionDigest`. -/
def finalEncryptedAdmissionDigest (message : FinalEncryptedAdmissionMessage) (chainId : ℤ) :
    Except OriginatedThrown Text :=
  digestOf runtime (finalEncryptedAdmissionTypedData runtime message chainId)

end

end Mordant.Protection.Originated
