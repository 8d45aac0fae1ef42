/-
# Evidence of a run with direct participants

The document a bridge payload is built from: who was admitted, which artifacts the
run produced, and the result the release authority signed.  Everything is read out
of a parsed document that nobody vouches for; the signature and the pins given from
outside are all there is to trust.

The seal over the document is a plain digest, which whoever changes the document
can compute again.
-/

import Mordant.Protection.Admission
import Mordant.Protection.Coalition
import Mordant.Script.Canonical

namespace Mordant.Protection

open Foundation Script

/-- What the digests and the written numbers of the evidence need besides. -/
structure EvidenceRuntime extends NodeRuntime where
  /-- `createHash("sha256").update(buffer).digest("hex")`. -/
  sha256Bytes : List UInt8 → Text
  /-- `JSON.stringify` of a finite number. -/
  numberText : ℚ → Text

/-- What checking the governed result throws: a `ProtectionEvidenceError`, or what
reading the wrong kind of value throws. -/
inductive GovernedThrown
  | failed (code message : String)
  | typeError
  deriving DecidableEq

/-- What the verification throws. -/
inductive EvidenceThrown
  /-- A `DirectParticipantBridgeEvidenceError`. -/
  | failed (code message : String)
  /-- One whose message ends with that of what was caught. -/
  | wrapped (code lead : String) (inner : GovernedThrown)
  | strictJson (error : StrictJsonError)
  | typeError
  deriving DecidableEq

structure DirectParticipantBridgeExpectations where
  sourceCommit : Text
  assetIdentity : Text
  holderA : Text
  holderB : Text
  excludedWallets : List Text
  runId : Option Text

structure VerifiedDirectParticipantBridgeEvidence where
  evidence : Json
  conflict : Bool
  governedResult : Json
  holderA : Text
  holderB : Text

/-- `DirectParticipantCaseBinding`, as it was read. Its mode is a constant. -/
structure DirectParticipantCaseBinding where
  caseId : Text
  assetIdentity : Text
  policyId : Text
  circuitDigest : Text
  parameterFingerprint : Text
  releaseAuthorityId : Text
  releaseAuthorityPublicKey : Text

/-- The digests of the evidence that were read and passed their pattern. -/
structure EvidenceDigests where
  fheCaseId : Text
  caseBindingDigest : Text
  participantArtifactDigestA : Text
  participantArtifactDigestB : Text
  evaluatedArtifactDigest : Text
  governedResultDigest : Text

def directParticipantBridgeEvidenceSchema : Text :=
  lit "mordant.direct-participant-bridge-evidence/1"

def customSupervisedExecutionVariant : Text := lit "CUSTOM_SUPERVISED"

def governedDecryptorMode : Text := lit "governed-decryptor-v1"

def forbiddenKeys : List String :=
  ["activeFrom", "activeUntil", "supervisedPledgeWindows", "pledges", "pledge", "claim",
    "privateKey", "signingKey", "secretKey", "decryptorPrivate", "participantPrivate",
    "attestorPrivateKey", "path", "root", "publicRoot", "privateRoot"]

def evidenceFields : List String :=
  ["schemaVersion", "evidenceDigest", "sourceCommit", "runId", "executionVariant", "fheCaseId",
    "protectionBindingDigest", "caseBindingDigest", "caseBinding", "participants",
    "participantArtifactDigestA", "participantArtifactDigestB", "evaluatedArtifactDigest",
    "governedResultDigest", "governedResult", "customReceiptDigest"]

def admissionFields : List String :=
  ["role", "participantWallet", "authorizationDigest", "claimCommitment", "authorizationNonce",
    "chainId", "eligibilityBlock"]

def admissionFieldsWithProof : List String := admissionFields ++ ["authorization", "signature"]

def caseBindingFields : List String :=
  ["caseId", "assetIdentity", "policyId", "circuitDigest", "parameterFingerprint", "releaseMode",
    "releaseAuthorityId", "releaseAuthorityPublicKey"]

/-- The fields of a governed result, in the order they are signed in. -/
def governedResultFields : List String :=
  ["schemaVersion", "caseId", "caseBindingDigest", "assetIdentity", "serviceId", "serviceVersion",
    "policyId", "policyVersion", "circuitId", "circuitVersion", "circuitDigest",
    "parameterProfile", "parameterFingerprint", "participantArtifactDigests",
    "evaluatedArtifactDigest", "resultCiphertextDigest", "resultCiphertextCommitment", "conflict",
    "releaseOrdinal", "releaseMode", "releaseAuthorityId", "releaseAuthorityPublicKey",
    "releasedAtUnix", "sourceProvenance", "signature"]

/-- A failure of the verification itself. -/
def rejects (condition : Prop) [Decidable condition] (code message : String) :
    Except EvidenceThrown Unit :=
  revertIf condition (.failed code message)

/-! ## Shapes -/

def exactKeys (value : Json) (expected : List String) (code label : String) :
    Except EvidenceThrown Unit := do
  rejects (value.isObject = false) code (label ++ " must be an object")
  rejects (value.hasExactKeys expected = false) code (label ++ " fields are not exact")

/-- A string that passes a test. -/
def requireText (test : Text → Bool) (value : Option Json) (code message : String) :
    Except EvidenceThrown Text :=
  match value with
  | some (.text text) => if test text then .ok text else .error (.failed code message)
  | _ => .error (.failed code message)

def digest (value : Option Json) (code label : String) : Except EvidenceThrown Text :=
  requireText isLowerSha256Digest value code (label ++ " must be a sha256 digest")

def bytes32Hex (value : Option Json) (code label : String) : Except EvidenceThrown Text :=
  requireText isBytes32Text value code (label ++ " must be a lowercase 32-byte hex value")

def address (value : Option Json) (code label : String) : Except EvidenceThrown Text :=
  requireText isAddressText value code (label ++ " must be an address")

def exactCommit (value : Option Json) (code label : String) : Except EvidenceThrown Text :=
  requireText (matchesDigits isLowerHexDigit "" 40) value code
    (label ++ " must be a full lowercase commit id")

def wholeNumber (value : Option Json) (code label : String) : Except EvidenceThrown Unit :=
  match value with
  | some (.number n) =>
    rejects (n.isSafeInteger = false ∨ n.lt (.ofInt 0) = true) code
      (label ++ " must be a whole number")
  | _ => .error (.failed code (label ++ " must be a whole number"))

/-- A pattern given unit by unit. -/
def matchesUnits : List (UInt16 → Bool) → Text → Bool
  | [], [] => true
  | test :: tests, unit :: rest => test unit && matchesUnits tests rest
  | _, _ => false

/-- The pattern of a run id: a UUID. -/
def isRunId (text : Text) : Bool :=
  let digits (count : ℕ) := List.replicate count isLowerHexDigit
  let dash : UInt16 → Bool := fun unit => unit = 45
  matchesUnits
    (digits 8 ++ [dash] ++ digits 4 ++ [dash] ++ [fun unit => 49 ≤ unit && unit ≤ 53] ++
      digits 3 ++ [dash] ++ [fun unit => decide (unit ∈ lit "89ab")] ++ digits 3 ++ [dash] ++
      digits 12)
    text

/-! ## The governed result -/

/-- The characters of a string, as spreading it gives them. -/
def characters : Text → List Json
  | [] => []
  | [unit] => [.text [unit]]
  | high :: low :: rest =>
    if isHighSurrogate high && isLowSurrogate low then .text [high, low] :: characters rest
    else .text [high] :: characters (low :: rest)

/-- `[...value]`, which throws for what is not iterable. -/
def spread : Json → Option (List Json)
  | .array elements => some elements
  | .text units => some (characters units)
  | _ => none

/-- A member of what is written for a result: its artifacts are copied, and what is
signed has no signature. -/
def resultMember (result : Json) (signing : Bool) (digests : List Json) (name : String) :
    Option Json :=
  if name = "participantArtifactDigests" then some (.array digests)
  else if name = "signature" ∧ signing = true then some .null
  else result.get name

/-- `governedResultValue`. A member that is not there is not written. -/
def governedResultValue (result : Json) (signing : Bool) : Option Json := do
  let digests ← (result.get "participantArtifactDigests").bind spread
  pure (.object (governedResultFields.filterMap fun name =>
    (resultMember result signing digests name).map fun member => (lit name, member)))

section

variable (runtime : EvidenceRuntime)

/-- What a governed result is written as. -/
def governedResultText (result : Json) (signing : Bool) : Option Text :=
  (governedResultValue result signing).map (Json.stringify runtime.numberText)

def governedResultDigest (result : Json) : Except EvidenceThrown Text := do
  let text ← require .typeError (governedResultText runtime result false)
  pure (lit "sha256:" ++ runtime.sha256 text)

/-- The key of a canonical spelling: `ed25519Key`. -/
def ed25519Key (rawBase64 : Option Json) : Except GovernedThrown (List UInt8) := do
  let base64 ← require .typeError (rawBase64.bind Json.asText)
  let raw := runtime.decodeBase64 base64
  revertIf (raw.length ≠ 32 ∨ runtime.encodeBase64 raw ≠ base64)
    (.failed "SIGNATURE_ENCODING" "Invalid Ed25519 public key")
  pure raw

/-- `verifyGoSignature`. A signature that is no string decodes to nothing that is
written the same. -/
def verifyGoSignature (publicKey : Option Json) (domain : Text) (text : Text)
    (signature : Option Json) (code : String) : Except GovernedThrown Unit := do
  let base64 ← require .typeError (signature.bind Json.asText)
  let decoded := runtime.decodeBase64 base64
  revertIf (decoded.length ≠ 64 ∨ runtime.encodeBase64 decoded ≠ base64)
    (.failed code (code ++ ": invalid signature encoding"))
  let key ← ed25519Key runtime publicKey
  revertIf (runtime.verifyEd25519 key (runtime.utf8 domain ++ [0] ++ runtime.utf8 text)
      decoded = false)
    (.failed code (code ++ ": Ed25519 verification failed"))

def verifyGovernedResultSignature (result : Json) : Except GovernedThrown Unit := do
  match result with
  | .null => throw .typeError
  | _ => pure ()
  let expectedFields :=
    if (result.get "digest").isSome then governedResultFields ++ ["digest"]
    else governedResultFields
  revertIf (result.isObject = false)
    (.failed "GOVERNED_RESULT_FIELDS" "GOVERNED_RESULT_FIELDS: expected an object")
  revertIf (result.hasExactKeys expectedFields = false)
    (.failed "GOVERNED_RESULT_FIELDS" "GOVERNED_RESULT_FIELDS: unexpected or missing fields")
  let text ← require .typeError (governedResultText runtime result true)
  verifyGoSignature runtime (result.get "releaseAuthorityPublicKey")
    (lit "MordantGovernedConflictResult/v1") text (result.get "signature")
    "GOVERNED_RESULT_SIGNATURE"

def releaseAuthorityIdentity (releaseAuthorityPublicKey releaseMode : Text) :
    Except GovernedThrown Text := do
  let raw := runtime.decodeBase64 releaseAuthorityPublicKey
  revertIf (raw.length ≠ 32 ∨ runtime.encodeBase64 raw ≠ releaseAuthorityPublicKey)
    (.failed "RELEASE_AUTHORITY_KEY" "Invalid Ed25519 release authority public key")
  pure (lit "sha256:" ++ runtime.sha256Bytes
    (runtime.utf8 (lit "MordantReleaseAuthorityIdentity/v1") ++ [0] ++
      runtime.utf8 releaseMode ++ [0] ++ raw))

def assertReleaseAuthorityIdentity (releaseAuthorityPublicKey releaseMode : Text)
    (claimedAuthorityId : Text) (code : String) : Except GovernedThrown Text := do
  let derived ← releaseAuthorityIdentity runtime releaseAuthorityPublicKey releaseMode
  revertIf (derived ≠ claimedAuthorityId) (.failed code "Release authority identity mismatch")
  pure derived

end

/-! ## The steps of the verification -/

/-- A member of a value, if it is a string. -/
def textOf (value : Json) (name : String) : Option Text := (value.get name).bind Json.asText

section

variable (runtime : EvidenceRuntime)

def directParticipantBridgeEvidenceDigest (body : Json) : Except EvidenceThrown Text := do
  let text ← (canonicalJson runtime.numberText body).mapError .strictJson
  pure (lit "sha256:" ++ runtime.sha256
    (lit "MordantDirectParticipantBridgeEvidence/v1" ++ [0] ++ text))

/-- The seal covers every other field. -/
def checkSeal (value : Json) : Except EvidenceThrown Unit := do
  let evidenceDigest ← digest (value.get "evidenceDigest") "EVIDENCE_DIGEST" "evidenceDigest"
  let expected ← directParticipantBridgeEvidenceDigest runtime (value.without "evidenceDigest")
  rejects (evidenceDigest ≠ expected) "EVIDENCE_DIGEST"
    "Direct-participant bridge evidence digest mismatch"

/-- Provenance is the commit that executed. -/
def checkProvenance (sourceCommit runId : Option Json)
    (expectations : DirectParticipantBridgeExpectations) : Except EvidenceThrown Unit := do
  let commit ← exactCommit sourceCommit "SOURCE_COMMIT" "sourceCommit"
  let expected ← exactCommit (some (.text expectations.sourceCommit)) "SOURCE_COMMIT_PIN"
    "expected sourceCommit"
  rejects (commit ≠ expected) "SOURCE_COMMIT"
    "Bridge evidence source commit disagrees with the execution source commit"
  let run ← requireText isRunId runId "RUN_ID" "Bridge evidence run id rejected"
  rejects (expectations.runId.isSome = true ∧ expectations.runId ≠ some run) "RUN_ID"
    "Bridge evidence belongs to a different run"

/-- The digests of the evidence. -/
def readDigests (value : Json) : Except EvidenceThrown EvidenceDigests := do
  let fheCaseId ← digest (value.get "fheCaseId") "CASE_ID" "fheCaseId"
  let protectionBindingDigest ←
    digest (value.get "protectionBindingDigest") "PROTECTION_BINDING" "protectionBindingDigest"
  let caseBindingDigest ←
    digest (value.get "caseBindingDigest") "CASE_BINDING" "caseBindingDigest"
  let participantArtifactDigestA ←
    digest (value.get "participantArtifactDigestA") "ARTIFACT_A" "participantArtifactDigestA"
  let participantArtifactDigestB ←
    digest (value.get "participantArtifactDigestB") "ARTIFACT_B" "participantArtifactDigestB"
  let evaluatedArtifactDigest ←
    digest (value.get "evaluatedArtifactDigest") "EVALUATED" "evaluatedArtifactDigest"
  let declaredResultDigest ←
    digest (value.get "governedResultDigest") "RESULT_DIGEST" "governedResultDigest"
  let _ ← digest (value.get "customReceiptDigest") "RECEIPT_DIGEST" "customReceiptDigest"
  rejects (protectionBindingDigest = caseBindingDigest) "BINDING_DISTINCT"
    "The protection binding and the FHE case binding must be distinct digests"
  rejects (participantArtifactDigestA = participantArtifactDigestB) "ARTIFACTS_DISTINCT"
    "The two participant artifacts must be distinct"
  pure
    { fheCaseId := fheCaseId
      caseBindingDigest := caseBindingDigest
      participantArtifactDigestA := participantArtifactDigestA
      participantArtifactDigestB := participantArtifactDigestB
      evaluatedArtifactDigest := evaluatedArtifactDigest
      governedResultDigest := declaredResultDigest }

/-- The case binding. Of its policy only the shape is read. -/
def readCaseBinding (raw : Option Json) : Except EvidenceThrown DirectParticipantCaseBinding := do
  let binding := raw.getD .null
  exactKeys binding caseBindingFields "CASE_BINDING_FIELDS" "caseBinding"
  let caseId ← digest (binding.get "caseId") "CASE_BINDING" "caseBinding.caseId"
  let assetIdentity ←
    digest (binding.get "assetIdentity") "CASE_BINDING" "caseBinding.assetIdentity"
  let circuitDigest ←
    digest (binding.get "circuitDigest") "CASE_BINDING" "caseBinding.circuitDigest"
  let parameterFingerprint ←
    digest (binding.get "parameterFingerprint") "CASE_BINDING" "caseBinding.parameterFingerprint"
  let releaseAuthorityId ←
    digest (binding.get "releaseAuthorityId") "CASE_BINDING" "caseBinding.releaseAuthorityId"
  let policyId ← digest (binding.get "policyId") "CASE_BINDING" "caseBinding.policyId"
  rejects (textOf binding "releaseMode" ≠ some governedDecryptorMode) "CASE_BINDING"
    "caseBinding.releaseMode is not the governed mode"
  let releaseAuthorityPublicKey ← requireText (fun text => text ≠ [])
    (binding.get "releaseAuthorityPublicKey") "CASE_BINDING"
    "caseBinding.releaseAuthorityPublicKey is required"
  pure
    { caseId := caseId
      assetIdentity := assetIdentity
      policyId := policyId
      circuitDigest := circuitDigest
      parameterFingerprint := parameterFingerprint
      releaseAuthorityId := releaseAuthorityId
      releaseAuthorityPublicKey := releaseAuthorityPublicKey }

/-- The signature, and the digest of what was signed. -/
def checkResult (result : Json) (declaredResultDigest : Text) : Except EvidenceThrown Unit := do
  (verifyGovernedResultSignature runtime result).mapError
    (.wrapped "GOVERNED_RESULT_SIGNATURE" "The governed result did not verify: ")
  let recomputed ← governedResultDigest runtime result
  rejects (recomputed ≠ declaredResultDigest) "RESULT_DIGEST"
    "The governed result digest does not match the signed governed result"

/-- The signed result against the case and its binding. -/
def checkBinding (result : Json) (digests : EvidenceDigests)
    (binding : DirectParticipantCaseBinding) (expectedAsset : Text) :
    Except EvidenceThrown Unit := do
  rejects (textOf result "caseId" ≠ some digests.fheCaseId) "CASE_ID"
    "The governed result is for a different case"
  rejects (textOf result "caseId" ≠ some binding.caseId) "CASE_ID"
    "The case binding is for a different case"
  rejects (textOf result "caseBindingDigest" ≠ some digests.caseBindingDigest) "CASE_BINDING"
    "The governed result is bound to a different FHE case binding"
  rejects (textOf result "assetIdentity" ≠ some binding.assetIdentity) "ASSET_IDENTITY"
    "The governed result and the case binding name different receivables"
  let asset ← digest (some (.text expectedAsset)) "ASSET_PIN" "expected assetIdentity"
  rejects (textOf result "assetIdentity" ≠ some asset) "ASSET_IDENTITY"
    "The governed result is not bound to the canonical receivable"
  rejects (textOf result "releaseMode" ≠ some governedDecryptorMode) "RELEASE_MODE"
    "Release mode disagrees with the case binding"
  rejects (textOf result "releaseAuthorityId" ≠ some binding.releaseAuthorityId)
    "RELEASE_AUTHORITY" "The governed result authority is not the authority of this case binding"
  rejects (textOf result "releaseAuthorityPublicKey" ≠ some binding.releaseAuthorityPublicKey)
    "RELEASE_AUTHORITY" "The signing authority key is not the key this case binding designated"
  let _ ← (assertReleaseAuthorityIdentity runtime binding.releaseAuthorityPublicKey
    governedDecryptorMode binding.releaseAuthorityId "RELEASE_AUTHORITY_IDENTITY").mapError
      (.wrapped "RELEASE_AUTHORITY_IDENTITY"
        "The governed authority identity is not derived from the signing key: ")
  rejects (textOf result "circuitDigest" ≠ some binding.circuitDigest) "CIRCUIT"
    "The governed result circuit is not this case's circuit"
  rejects (textOf result "parameterFingerprint" ≠ some binding.parameterFingerprint) "PARAMETERS"
    "The governed result parameters are not this case's parameters"

/-- The signed result against the artifacts of the run. -/
def checkArtifacts (result : Json) (digests : EvidenceDigests) : Except EvidenceThrown Unit := do
  let artifact (index : ℕ) : Option Text :=
    (((result.get "participantArtifactDigests").bind (·.element index)).bind Json.asText)
  rejects (artifact 0 ≠ some digests.participantArtifactDigestA ∨
      artifact 1 ≠ some digests.participantArtifactDigestB) "PARTICIPANT_ARTIFACTS"
    "The governed result covers different participant artifacts"
  rejects (textOf result "evaluatedArtifactDigest" ≠ some digests.evaluatedArtifactDigest)
    "EVALUATED_ARTIFACT" "The governed result covers a different evaluated artifact"
  let ciphertext ← require .typeError (textOf result "resultCiphertextDigest")
  rejects (ciphertext ≠ runtime.toLowerCase ciphertext) "RESULT_CIPHERTEXT"
    "The result ciphertext digest is not canonical"
  let _ ← requireText isLowerSha256Digest (result.get "resultCiphertextCommitment")
    "RESULT_COMMITMENT" "The result ciphertext commitment is missing"
  let _ ← requireText isLowerSha256Digest (result.get "sourceProvenance")
    "SOURCE_PROVENANCE" "The governed result source provenance is missing"

/-- One admission; returns its wallet. -/
def checkAdmission (entry : Json) (role : ParticipantRole) (label : String) :
    Except EvidenceThrown Text := do
  exactKeys entry
    (if (entry.get "signature").isSome then admissionFieldsWithProof else admissionFields)
    "ADMISSION_FIELDS" label
  rejects (textOf entry "role" ≠ some (lit role.text)) "ADMISSION_ROLE"
    (label ++ " must be " ++ role.text)
  let _ ← bytes32Hex (entry.get "authorizationDigest") "ADMISSION_AUTHORIZATION"
    (label ++ ".authorizationDigest")
  let _ ← bytes32Hex (entry.get "claimCommitment") "ADMISSION_COMMITMENT"
    (label ++ ".claimCommitment")
  let _ ← bytes32Hex (entry.get "authorizationNonce") "ADMISSION_NONCE"
    (label ++ ".authorizationNonce")
  wholeNumber (entry.get "eligibilityBlock") "ADMISSION_ELIGIBILITY" (label ++ ".eligibilityBlock")
  rejects ((entry.get "chainId").bind Json.asNumber ≠ some (.ofInt 10143)) "ADMISSION_CHAIN"
    (label ++ " must be admitted on Monad testnet")
  address (entry.get "participantWallet") "ADMISSION_WALLET" (label ++ ".participantWallet")

/-- The two admissions, and who they may be. -/
def checkAdmissions (participants : Option Json)
    (expectations : DirectParticipantBridgeExpectations) : Except EvidenceThrown (Text × Text) := do
  match participants with
  | some (.array [entryA, entryB]) => do
    let walletA ← checkAdmission entryA .participantA "participants[0]"
    let walletB ← checkAdmission entryB .participantB "participants[1]"
    let holderA ← address (some (.text expectations.holderA)) "HOLDER_PIN" "expected holderA"
    let holderB ← address (some (.text expectations.holderB)) "HOLDER_PIN" "expected holderB"
    rejects (sameAddress runtime.toRuntime walletA holderA = false) "CANONICAL_PARTICIPANT"
      "PARTICIPANT_A is not the canonical holder A wallet"
    rejects (sameAddress runtime.toRuntime walletB holderB = false) "CANONICAL_PARTICIPANT"
      "PARTICIPANT_B is not the canonical holder B wallet"
    rejects (sameAddress runtime.toRuntime walletA walletB = true) "PARTICIPANTS_DISTINCT"
      "The two admitted participants must be distinct wallets"
    rejects (∃ wallet ∈ [walletA, walletB], ∃ excluded ∈ expectations.excludedWallets,
        sameAddress runtime.toRuntime excluded wallet = true) "EXCLUDED_PARTICIPANT"
      "An excluded wallet cannot be a direct participant"
    pure (walletA, walletB)
  | _ => .error (.failed "PARTICIPANTS" "Exactly two participant admissions are required")

/-- The loop over the forbidden names. -/
def checkForbidden (encoded : Text) : List String → Except EvidenceThrown Unit
  | [] => pure ()
  | forbidden :: rest => do
    rejects (includes (quoted (lit forbidden)) encoded = true) "PRIVATE_LEAK"
      ("Bridge evidence must not carry " ++ forbidden)
    checkForbidden encoded rest

/-- No private material may ride along. -/
def checkLeak (value : Json) : Except EvidenceThrown Unit := do
  let encoded ← (canonicalJson runtime.numberText value).mapError .strictJson
  checkForbidden encoded forbiddenKeys

def assertDirectParticipantBridgeEvidence (value : Json)
    (expectations : DirectParticipantBridgeExpectations) :
    Except EvidenceThrown VerifiedDirectParticipantBridgeEvidence := do
  exactKeys value evidenceFields "EVIDENCE_FIELDS" "bridge evidence"
  rejects (textOf value "schemaVersion" ≠ some directParticipantBridgeEvidenceSchema) "SCHEMA"
    "Unsupported direct-participant bridge evidence schema"
  rejects (textOf value "executionVariant" ≠ some customSupervisedExecutionVariant)
    "EXECUTION_VARIANT" "Direct-participant bridge evidence must declare CUSTOM_SUPERVISED"
  checkSeal runtime value
  checkProvenance (value.get "sourceCommit") (value.get "runId") expectations
  let digests ← readDigests value
  let binding ← readCaseBinding (value.get "caseBinding")
  let result := (value.get "governedResult").getD .null
  checkResult runtime result digests.governedResultDigest
  checkBinding runtime result digests binding expectations.assetIdentity
  checkArtifacts runtime result digests
  let (holderA, holderB) ← checkAdmissions runtime (value.get "participants") expectations
  checkLeak runtime value
  match result.get "conflict" with
  | some (.bool conflict) => pure ⟨value, conflict, result, holderA, holderB⟩
  | _ => .error (.failed "CONFLICT" "The governed result carries no signed Boolean")

end

end Mordant.Protection
