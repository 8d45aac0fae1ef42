/-
# What a participant's wallet signs

One wallet takes one role of one case by signing typed data.  The second version of
the type names, besides, the key that will sign the wallet's enrollments.  Whoever is
handed a struct parses it exactly before it is looked at, and the server that admits
the wallet compares it field by field with what it is about to act on.
-/

import Mordant.Protection.Evidence
import Mordant.Protection.Payload

namespace Mordant.Protection

open Foundation Script

/-- What parsing and checking an authorization throws, by the module that throws it. -/
inductive AuthorizationThrown
  /-- A `ParticipantAuthorizationError`. -/
  | authorization (code : String) (status : ℕ) (message : String)
  /-- A `ParticipantAdmissionV2Error`. -/
  | admissionV2 (code : String) (status : ℕ) (message : String)
  /-- What `digestToBytes32` throws. -/
  | digest (inner : PrepareThrown)
  | strictJson (error : StrictJsonError)
  /-- What the wallet library throws. -/
  | rejected
  deriving DecidableEq

/-- `ParticipantAdmissionMessage`. The second version does not look at the type of its
first two fields. -/
structure ParticipantAdmissionMessage where
  verifyingService : Json
  runId : Json
  fheCaseId : Text
  protectionBindingDigest : Text
  assetIdentityDigest : Text
  role : ParticipantRole
  activeFrom : ℤ
  activeUntil : ℤ
  participantWallet : Text
  authorizationNonce : Text
  issuedAt : ℤ
  expiresAt : ℤ

structure ParticipantAdmissionV2Message extends ParticipantAdmissionMessage where
  participantSigningKeyDigest : Text

/-- A struct of either version. -/
inductive AdmissionMessage
  | v1 (message : ParticipantAdmissionMessage)
  | v2 (message : ParticipantAdmissionV2Message)

namespace AdmissionMessage

/-- The fields both versions have. -/
def signed : AdmissionMessage → ParticipantAdmissionMessage
  | .v1 message => message
  | .v2 message => message.toParticipantAdmissionMessage

def signingKeyDigest : AdmissionMessage → Option Text
  | .v1 _ => none
  | .v2 message => some message.participantSigningKeyDigest

end AdmissionMessage

/-- The typed data of an admission. Its types are those of the primary type. -/
structure AdmissionTypedData where
  name : Text
  version : Text
  chainId : Number
  salt : Hex
  primaryType : Text
  message : AdmissionMessage

/-- What the wallet library supplies. -/
structure AuthorizationRuntime extends EvidenceRuntime where
  /-- `keccak256(toHex(text))`. -/
  keccakText : Text → Hex
  /-- `getAddress`, which throws for what is no address. -/
  getAddress : Text → Option Text
  /-- `hashTypedData`, which throws for what the types do not allow. -/
  hashAdmission : AdmissionTypedData → Option Hex
  /-- `recoverTypedDataAddress`, which throws for what is no signature. -/
  recoverAdmission : AdmissionTypedData → Text → Option Text

def participantAdmissionSchema : Text := lit "mordant.participant-admission/1"
def participantAdmissionV2Schema : Text := lit "mordant.participant-admission/2"

def participantAuthorizationMaxLifetimeSeconds : ℤ := 15 * 60

/-- The members of `PARTICIPANT_ADMISSION_TYPES`. -/
def participantAdmissionTypes : List String :=
  ["verifyingService", "runId", "fheCaseId", "protectionBindingDigest", "assetIdentityDigest",
    "role", "activeFrom", "activeUntil", "participantWallet", "authorizationNonce", "issuedAt",
    "expiresAt"]

/-- The members of `PARTICIPANT_ADMISSION_V2_TYPES`. -/
def participantAdmissionV2Types : List String :=
  participantAdmissionTypes ++ ["participantSigningKeyDigest"]

/-! ## Reading a struct -/

/-- A string that passes a test. -/
def readText {ε : Type} (test : Text → Bool) (value : Option Json) (thrown : ε) : Except ε Text :=
  match value with
  | some (.text text) => if test text then .ok text else .error thrown
  | _ => .error thrown

/-- A safe integer that passes a test. -/
def readNumber (test : Number → Bool) (value : Option Json) (thrown : AuthorizationThrown) :
    Except AuthorizationThrown ℤ :=
  match value with
  | some (.number n) => if n.isSafeInteger && test n then .ok (bigIntOf n) else .error thrown
  | _ => .error thrown

/-- `isParticipantRole`, and the role. -/
def ParticipantRole.ofText? (text : Text) : Option ParticipantRole :=
  if text = lit ParticipantRole.participantA.text then some .participantA
  else if text = lit ParticipantRole.participantB.text then some .participantB
  else none

def readRole (value : Option Json) (thrown : AuthorizationThrown) :
    Except AuthorizationThrown ParticipantRole :=
  require thrown ((value.bind Json.asText).bind ParticipantRole.ofText?)

def exactBytes32 (value : Option Json) (code label : String) : Except AuthorizationThrown Text :=
  readText isBytes32Text value
    (.authorization code 400 (label ++ " must be 0x followed by 64 lowercase hex characters"))

def exactUnixSeconds (value : Option Json) (code label : String) : Except AuthorizationThrown ℤ :=
  readNumber (fun n => !n.le (.ofInt 0)) value
    (.authorization code 400 (label ++ " must be a positive whole number of seconds"))

def exactInterval (value : Option Json) (code label : String) : Except AuthorizationThrown ℤ :=
  readNumber (fun n => !n.lt (.ofInt 0)) value
    (.authorization code 400 (label ++ " must be a non-negative whole number"))

section

variable (runtime : AuthorizationRuntime)

def assertParticipantAdmissionMessage (value : Json) :
    Except AuthorizationThrown ParticipantAdmissionMessage := do
  revertIf (value.isObject = false ∨ value.hasExactKeys participantAdmissionTypes = false)
    (.authorization "AUTHORIZATION_MEMBERS" 400 "The authorization members are not exact")
  let verifyingService ← readText (fun text => text.length ≠ 0 && text.length ≤ 255)
    (value.get "verifyingService")
    (.authorization "AUTHORIZATION_SERVICE" 400 "A verifying service is required")
  let runId ← readText isRunId (value.get "runId")
    (.authorization "AUTHORIZATION_RUN_ID" 400 "A case identifier is required")
  let role ← readRole (value.get "role")
    (.authorization "AUTHORIZATION_ROLE" 400 "The role must be PARTICIPANT_A or PARTICIPANT_B")
  let noWallet := .authorization "AUTHORIZATION_WALLET" 400 "A 0x wallet address is required"
  let wallet ← readText isAddressText (value.get "participantWallet") noWallet
  let participantWallet ← require noWallet (runtime.getAddress wallet)
  let activeFrom ← exactInterval (value.get "activeFrom") "AUTHORIZATION_ACTIVE_FROM" "activeFrom"
  let activeUntil ←
    exactInterval (value.get "activeUntil") "AUTHORIZATION_ACTIVE_UNTIL" "activeUntil"
  revertIf (activeUntil ≤ activeFrom) (.authorization "AUTHORIZATION_INTERVAL" 400
    "activeFrom must be strictly before activeUntil")
  let issuedAt ← exactUnixSeconds (value.get "issuedAt") "AUTHORIZATION_ISSUED_AT" "issuedAt"
  let expiresAt ← exactUnixSeconds (value.get "expiresAt") "AUTHORIZATION_EXPIRY" "expiresAt"
  revertIf (expiresAt ≤ issuedAt) (.authorization "AUTHORIZATION_WINDOW" 400
    "expiresAt must be strictly after issuedAt")
  revertIf (participantAuthorizationMaxLifetimeSeconds < expiresAt - issuedAt)
    (.authorization "AUTHORIZATION_LIFETIME" 400 "The authorization lifetime is too long")
  let fheCaseId ← exactBytes32 (value.get "fheCaseId") "AUTHORIZATION_FHE_CASE_ID" "fheCaseId"
  let protectionBindingDigest ← exactBytes32 (value.get "protectionBindingDigest")
    "AUTHORIZATION_BINDING" "protectionBindingDigest"
  let assetIdentityDigest ←
    exactBytes32 (value.get "assetIdentityDigest") "AUTHORIZATION_ASSET" "assetIdentityDigest"
  let authorizationNonce ←
    exactBytes32 (value.get "authorizationNonce") "AUTHORIZATION_NONCE" "authorizationNonce"
  pure
    { verifyingService := .text verifyingService
      runId := .text runId
      fheCaseId := fheCaseId
      protectionBindingDigest := protectionBindingDigest
      assetIdentityDigest := assetIdentityDigest
      role := role
      activeFrom := activeFrom
      activeUntil := activeUntil
      participantWallet := participantWallet
      authorizationNonce := authorizationNonce
      issuedAt := issuedAt
      expiresAt := expiresAt }

/-- A field of the second version with the pattern of 32 bytes. -/
def admissionBytes32 (value : Json) (key : String) : Except AuthorizationThrown Text :=
  readText isBytes32Text (value.get key)
    (.admissionV2 "ADMISSION_FIELD" 400 (key ++ " must be lower-case 0x bytes32"))

/-- A time of the second version. -/
def admissionSeconds (value : Json) (key : String) : Except AuthorizationThrown ℤ :=
  readNumber (fun n => !n.le (.ofInt 0)) (value.get key)
    (.admissionV2 "ADMISSION_FIELD" 400 (key ++ " must be a positive integer of Unix seconds"))

def assertParticipantAdmissionV2Message (value : Json) :
    Except AuthorizationThrown ParticipantAdmissionV2Message := do
  match value with
  | .object _ | .array _ => pure ()
  | _ => throw (.admissionV2 "ADMISSION_SHAPE" 400 "A participant admission object is required")
  revertIf (value.hasExactKeys participantAdmissionV2Types = false)
    (.admissionV2 "ADMISSION_SHAPE" 400 "The admission carries unexpected or missing fields")
  let fheCaseId ← admissionBytes32 value "fheCaseId"
  let protectionBindingDigest ← admissionBytes32 value "protectionBindingDigest"
  let assetIdentityDigest ← admissionBytes32 value "assetIdentityDigest"
  let authorizationNonce ← admissionBytes32 value "authorizationNonce"
  let participantSigningKeyDigest ← admissionBytes32 value "participantSigningKeyDigest"
  let participantWallet ← readText isAddressText (value.get "participantWallet")
    (.admissionV2 "ADMISSION_FIELD" 400 "participantWallet must be an address")
  let role ← readRole (value.get "role")
    (.admissionV2 "ADMISSION_FIELD" 400 "role must be a participant role")
  let activeFrom ← admissionSeconds value "activeFrom"
  let activeUntil ← admissionSeconds value "activeUntil"
  let issuedAt ← admissionSeconds value "issuedAt"
  let expiresAt ← admissionSeconds value "expiresAt"
  revertIf (expiresAt ≤ issuedAt)
    (.admissionV2 "ADMISSION_WINDOW" 400 "The admission expires before it is issued")
  revertIf (participantAuthorizationMaxLifetimeSeconds < expiresAt - issuedAt)
    (.admissionV2 "ADMISSION_WINDOW" 400 "The admission lifetime exceeds the maximum")
  revertIf (activeUntil ≤ activeFrom)
    (.admissionV2 "ADMISSION_WINDOW" 400 "The claim window is empty")
  pure
    { verifyingService := (value.get "verifyingService").getD .null
      runId := (value.get "runId").getD .null
      fheCaseId := fheCaseId
      protectionBindingDigest := protectionBindingDigest
      assetIdentityDigest := assetIdentityDigest
      role := role
      activeFrom := activeFrom
      activeUntil := activeUntil
      participantWallet := participantWallet
      authorizationNonce := authorizationNonce
      issuedAt := issuedAt
      expiresAt := expiresAt
      participantSigningKeyDigest := participantSigningKeyDigest }

end

/-! ## What is derived from one -/

section

variable (runtime : AuthorizationRuntime)

def sha256Digest (domain : String) (value : Json) : Except AuthorizationThrown Text := do
  let encoded ← (canonicalJson runtime.numberText value).mapError .strictJson
  pure (lit "sha256:" ++ runtime.sha256 (lit domain ++ [0] ++ encoded))

def participantClaimCommitment (runId : Text) (role : ParticipantRole)
    (activeFrom activeUntil : ℤ) : Except AuthorizationThrown Hex := do
  let digest ← sha256Digest runtime "MordantParticipantClaim/v1" (.object
    [(lit "runId", .text runId), (lit "role", .text (lit role.text)),
      (lit "activeFrom", .number (.ofInt activeFrom)),
      (lit "activeUntil", .number (.ofInt activeUntil))])
  (digestToBytes32 digest).mapError .digest

def participantSigningKeyDigest (signingPublicKeyBase64 : Text) :
    Except AuthorizationThrown Hex := do
  let raw := runtime.decodeBase64 signingPublicKeyBase64
  revertIf (raw.length ≠ 32 ∨ runtime.encodeBase64 raw ≠ signingPublicKeyBase64)
    (.admissionV2 "SIGNING_KEY" 400
      "A participant signing key must be a canonical Ed25519 public key")
  pure ⟨lit "0x" ++ runtime.sha256Bytes raw, List.prefix_append _ _⟩

def participantAdmissionTypedData (message : ParticipantAdmissionMessage) (chainId : Number) :
    AdmissionTypedData where
  name := lit "Mordant Participant Admission"
  version := lit "1"
  chainId := chainId
  salt := runtime.keccakText participantAdmissionSchema
  primaryType := lit "ParticipantAdmissionV1"
  message := .v1 message

/-- `participantAdmissionV2TypedData`: the domain of the first version, with another
version and salt. -/
def participantAdmissionV2TypedData (message : ParticipantAdmissionV2Message) (chainId : Number) :
    AdmissionTypedData where
  name := lit "Mordant Participant Admission"
  version := lit "2"
  chainId := chainId
  salt := runtime.keccakText participantAdmissionV2Schema
  primaryType := lit "ParticipantAdmissionV2"
  message := .v2 message

/-- The typed data of a struct of either version. -/
def AdmissionMessage.typedData (message : AdmissionMessage) (chainId : Number) :
    AdmissionTypedData :=
  match message with
  | .v1 message => participantAdmissionTypedData runtime message chainId
  | .v2 message => participantAdmissionV2TypedData runtime message chainId

end

/-! ## Checking one -/

/-- What `verifyParticipantAdmissionV2` expects of a struct. -/
structure ExpectedAdmission where
  verifyingService : Text
  runId : Text
  fheCaseId : Hex
  protectionBindingDigest : Hex
  assetIdentityDigest : Hex
  role : ParticipantRole
  /-- The key this server will publish for the role. -/
  participantSigningKeyBase64 : Text
  activeFrom : ℤ
  activeUntil : ℤ
  chainId : Number
  now : ℤ

/-- `/^0x[0-9a-fA-F]+$/u`, of even length. -/
def isSignatureText (text : Text) : Bool :=
  lit "0x" <+: text && (text.drop 2 ≠ []) && (text.drop 2).all isHexDigit && text.length % 2 = 0

/-- `value !== expected`, of a value that was not read yet. -/
def differsFrom (value : Json) (expected : Text) : Bool := value.asText ≠ some expected

/-- `verifyParticipantAdmissionV2`, where `verifyTypedData` may throw; returns the digest of
the key. -/
def verifyParticipantAdmissionV2 (runtime : AuthorizationRuntime)
    (message : ParticipantAdmissionV2Message) (signature : Json) (expected : ExpectedAdmission)
    (verifyTypedData : Text → AdmissionTypedData → Text → Option Bool) :
    Except AuthorizationThrown Hex := do
  let signature ← readText isSignatureText (some signature)
    (.admissionV2 "SIGNATURE_FORMAT" 400 "A 0x signature is required")
  revertIf (differsFrom message.verifyingService expected.verifyingService = true)
    (.admissionV2 "SERVICE_MISMATCH" 400 "This admission was not issued for this service")
  revertIf (message.role ≠ expected.role)
    (.admissionV2 "ROLE_MISMATCH" 409 "This admission was signed for a different role")
  revertIf (differsFrom message.runId expected.runId = true)
    (.admissionV2 "CASE_MISMATCH" 409 "This admission was signed for a different case")
  revertIf (message.fheCaseId ≠ expected.fheCaseId.text)
    (.admissionV2 "FHE_CASE_MISMATCH" 409 "This admission was signed for a different FHE case")
  revertIf (message.protectionBindingDigest ≠ expected.protectionBindingDigest.text)
    (.admissionV2 "BINDING_MISMATCH" 409
      "This admission was signed against a different protection binding")
  revertIf (message.assetIdentityDigest ≠ expected.assetIdentityDigest.text)
    (.admissionV2 "ASSET_MISMATCH" 409 "This admission was signed for a different asset")
  revertIf (message.activeFrom ≠ expected.activeFrom ∨ message.activeUntil ≠ expected.activeUntil)
    (.admissionV2 "CLAIM_MISMATCH" 409 "This admission was signed for a different claim window")
  revertIf (expected.now < message.issuedAt ∨ message.expiresAt < expected.now)
    (.admissionV2 "ADMISSION_EXPIRED" 409 "The admission is outside its validity window")
  -- The digest is that of the server's own key, whatever the request names.
  let derived ← participantSigningKeyDigest runtime expected.participantSigningKeyBase64
  revertIf (message.participantSigningKeyDigest ≠ derived.text)
    (.admissionV2 "SIGNING_KEY_NOT_ADMITTED" 409
      "The admission authorizes a signing key other than the one this case will publish")
  let authentic ← require .rejected (verifyTypedData message.participantWallet
    (participantAdmissionV2TypedData runtime message expected.chainId) signature)
  revertIf (authentic = false)
    (.admissionV2 "SIGNATURE_INVALID" 401
      "The admission signature did not verify for that wallet")
  pure derived

section

variable {runtime : AuthorizationRuntime} {message : ParticipantAdmissionV2Message}
  {signature : Json} {expected : ExpectedAdmission} {derived : Hex}
  {verifyTypedData : Text → AdmissionTypedData → Text → Option Bool}

theorem readText_ok_iff {ε : Type} {test : Text → Bool} {value : Option Json} {thrown : ε}
    {text : Text} :
    readText test value thrown = .ok text ↔ value = some (.text text) ∧ test text = true := by
  constructor
  · intro h
    unfold readText at h
    split at h
    · split at h
      · rename_i htest
        obtain rfl := Except.ok.inj h
        exact ⟨rfl, htest⟩
      · exact nomatch h
    · exact nomatch h
  · rintro ⟨rfl, htest⟩
    exact if_pos htest

theorem differsFrom_eq_false_iff {value : Json} {text : Text} :
    ¬ differsFrom value text = true ↔ value = .text text := by
  unfold differsFrom
  cases value <;> simp [Json.asText]

/-- Everything the server compares agrees, at a time in the signed window. -/
structure AdmissionVerifies (runtime : AuthorizationRuntime)
    (message : ParticipantAdmissionV2Message) (signature : Json) (expected : ExpectedAdmission)
    (verifyTypedData : Text → AdmissionTypedData → Text → Option Bool) (derived : Hex) :
    Prop where
  service : message.verifyingService = .text expected.verifyingService
  role : message.role = expected.role
  runId : message.runId = .text expected.runId
  fheCaseId : message.fheCaseId = expected.fheCaseId.text
  binding : message.protectionBindingDigest = expected.protectionBindingDigest.text
  asset : message.assetIdentityDigest = expected.assetIdentityDigest.text
  activeFrom : message.activeFrom = expected.activeFrom
  activeUntil : message.activeUntil = expected.activeUntil
  issued : message.issuedAt ≤ expected.now
  unexpired : expected.now ≤ message.expiresAt
  published : participantSigningKeyDigest runtime expected.participantSigningKeyBase64 =
    .ok derived
  key : message.participantSigningKeyDigest = derived.text
  signed : ∃ text, signature = .text text ∧ isSignatureText text = true ∧
    verifyTypedData message.participantWallet
      (participantAdmissionV2TypedData runtime message expected.chainId) text = some true

/-- The check passes exactly then. -/
theorem verifyParticipantAdmissionV2_ok_iff :
    verifyParticipantAdmissionV2 runtime message signature expected verifyTypedData =
        .ok derived ↔
      AdmissionVerifies runtime message signature expected verifyTypedData derived := by
  simp only [verifyParticipantAdmissionV2, bind_ok_iff, readText_ok_iff, Option.some.injEq,
    revertIf_ok_iff, exists_const, differsFrom_eq_false_iff, not_or, not_not, not_lt,
    require_ok_iff, Bool.not_eq_false, pure_ok_iff]
  constructor
  · rintro ⟨text, ⟨hsignature, hformat⟩, hservice, hrole, hrun, hcase, hbinding, hasset,
      ⟨hfrom, huntil⟩, ⟨hissued, hexpires⟩, _, hpublished, hkey, _, hverified, rfl, rfl⟩
    exact ⟨hservice, hrole, hrun, hcase, hbinding, hasset, hfrom, huntil, hissued, hexpires,
      hpublished, hkey, text, hsignature, hformat, hverified⟩
  · intro h
    obtain ⟨text, hsignature, hformat, hverified⟩ := h.signed
    exact ⟨text, ⟨hsignature, hformat⟩, h.service, h.role, h.runId, h.fheCaseId, h.binding,
      h.asset, ⟨h.activeFrom, h.activeUntil⟩, ⟨h.issued, h.unexpired⟩, derived, h.published, h.key,
      true, hverified, rfl, rfl⟩

end

end Mordant.Protection
