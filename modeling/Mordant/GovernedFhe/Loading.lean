/-
# Loading a governed case

Everything public is loaded through checks: the case and its two signatures, the release
authority, what the evaluator published, what the participants submitted, the evaluation
keys, and the two enrollments.  Each loader is a function of the objects that are seen.

The path of a reference is compared with the name of its object before the object is read.
-/

import Mordant.GovernedFhe.Case

namespace Mordant.GovernedFhe

open Evm Foundation
open Coalition (Digest Word64 Ciphertext CircuitInputsV5 Runtime IssuerRecord
  CiphertextEnrollmentV5 SignedCiphertextEnrollmentV5 PairedEnrollmentsV5 hexText bytes32Hex
  circuitSideEncoded enrollmentAuthorizationCommitment verifyEnrollmentV5 pairEnrollmentsV5)

/-! ## Constants -/

export Coalition (parameterProfile serviceID serviceVersion circuitID releaseModeCoalitionV5)

def caseBindingSchema : String := "mordant.fhe-case-binding/1"
def caseCryptoSchema : String := "mordant.fhe-case-crypto/1"
def caseManifestSchema : String := "mordant.fhe-case-manifest/1"
def participantArtifactSchema : String := "mordant.fhe-participant-artifact/1"
def evaluatedArtifactSchema : String := "mordant.fhe-evaluated-conflict/1"
def releaseAuthoritySchema : String := "mordant.fhe-release-authority/1"
def evaluationAdmissionSchema : String := "mordant.fhe-evaluation-admission/1"
def evaluationCompletedSchema : String := "mordant.fhe-evaluation-completed/1"
def enrollmentV5Schema : String := "mordant.fhe-participant-enrollment-v5/1"

def inputSchema : String := "mordant.encrypted-pledge/governed-fhe-v1"
def resultSchema : String := "mordant.fixed-conflict-boolean/v1"
def resultSlot : BitVec 32 := 0
def releaseModeGovernedDecryptor : String := "governed-decryptor-v1"

def rotationSteps : List ℤ := [1, 2, 4, 8, 16, 32, 64, -64, 128]

/-- An error with nothing to add. -/
def thrown (sentinel : Sentinel) : Thrown := { sentinel }

section

variable (library : Library)

/-! ## Documents -/

def marshalCanonical (document : Document) (value : document.Value) : Bytes :=
  (library.codec document).marshal value ++ [10]

def digestCanonical (document : Document) (value : document.Value) : Digest :=
  library.sha256 ((library.codec document).marshal value)

def decodeStrict (document : Document) (data : Bytes) : Except Thrown document.Value := do
  revertIf (data.length = 0 ∨ maxManifestBytes < data.length) (thrown .artifact)
  let value ← require (thrown .artifact) ((library.codec document).unmarshal data)
  revertIf (marshalCanonical library document value ≠ data) (thrown .artifact)
  pure value

/-- What a signature of a value is over. -/
def canonicalMessage (domain : String) (document : Document) (value : document.Value) : Bytes :=
  stringBytes domain ++ [0] ++ (library.codec document).marshal value

def signCanonical (privateKey : Bytes) (domain : String) (document : Document)
    (value : document.Value) : Except Thrown Bytes := do
  revertIf (privateKey.length ≠ 64 ∨ domain = "") (thrown .binding)
  pure (library.sign privateKey (canonicalMessage library domain document value))

def verifyCanonical (publicKey : Bytes) (domain : String) (document : Document)
    (value : document.Value) (signature : Bytes) : Except Thrown Unit :=
  revertIf (publicKey.length ≠ 32 ∨ signature.length ≠ 64 ∨ domain = "" ∨
      library.ed25519Verify publicKey (canonicalMessage library domain document value)
        signature = false)
    (thrown .binding)

/-- `readNamed`, of the object with this name. -/
def readNamed (name : String) (object : Option Bytes) (maximum : ℕ) :
    Except Thrown (Bytes × ObjectRef) := do
  let data ← require (thrown .artifact) object
  revertIf (data.length = 0 ∨ maximum < data.length) (thrown .artifact)
  pure (data, ⟨name, library.sha256 data, data.length⟩)

/-- `read`, of the object that the reference names. -/
def read (ref : ObjectRef) (object : Option Bytes) (maximum : ℕ) : Except Thrown Bytes := do
  ref.validate ref.path maximum
  let (data, actual) ← readNamed library ref.path object maximum
  revertIf (actual.length ≠ ref.length) ⟨.artifact, "length mismatch for " ++ ref.path, .other⟩
  revertIf (actual.digest ≠ ref.digest) ⟨.artifact, "digest mismatch for " ++ ref.path, .other⟩
  pure data

def readJSON (document : Document) (object : Option Bytes) :
    Except Thrown (document.Value × Bytes) := do
  let (data, _) ← readNamed library "" object maxManifestBytes
  let value ← decodeStrict library document data
  pure (value, data)

/-- What a reader that ignores why it fails makes of a check. -/
def passes {α : Type} (check : Except Thrown α) : Bool := check.toOption.isSome

/-! ## The case -/

def ParticipantIdentity.validate (identity : ParticipantIdentity) (role : Role) :
    Except Thrown Unit :=
  revertIf (identity.id = 0 ∨ identity.role ≠ role.text ∨ identity.signingPublicKey.length ≠ 32)
    (thrown .binding)

def knownReleaseMode (mode : String) : Bool :=
  mode = releaseModeGovernedDecryptor || mode = releaseModeCoalitionV5

def releaseAuthorityIdentity (mode : String) (publicKey : Bytes) : Digest :=
  library.sha256 (stringBytes "MordantReleaseAuthorityIdentity/v1" ++ [0] ++ stringBytes mode ++
    [0] ++ publicKey)

def validReleaseAuthority (binding : FHECaseBinding) : Bool :=
  if binding.releaseAuthorityID = 0 then false
  else if binding.releaseMode = releaseModeCoalitionV5 then
    binding.releaseAuthorityPublicKey.length = 0
  else if binding.releaseMode = releaseModeGovernedDecryptor then
    binding.releaseAuthorityPublicKey.length = 32 &&
      releaseAuthorityIdentity library binding.releaseMode binding.releaseAuthorityPublicKey =
        binding.releaseAuthorityID
  else false

def FHECaseBinding.validate (binding : FHECaseBinding) : Except Thrown Unit :=
  revertIf (library.parameterFingerprint ≠ some binding.parameterFingerprint ∨
      binding.schemaVersion ≠ caseBindingSchema ∨
      binding.serviceID ≠ GovernedFhe.serviceID ∨
      binding.serviceVersion ≠ GovernedFhe.serviceVersion ∨
      binding.policyVersion ≠ Coalition.policyVersion ∨
      binding.circuitID ≠ GovernedFhe.circuitID ∨
      binding.circuitVersion ≠ Coalition.circuitV5Version ∨
      binding.circuitDigest ≠ library.fixedCircuitDigest ∨
      binding.parameterProfile ≠ GovernedFhe.parameterProfile ∨
      binding.inputSchema ≠ GovernedFhe.inputSchema ∨
      binding.resultSchema ≠ GovernedFhe.resultSchema ∨
      binding.caseID = 0 ∨ binding.assetIdentity = 0 ∨
      binding.policyID = 0 ∨ binding.publicKeyDigest = 0 ∨
      binding.evaluationKeyManifestDigest = 0 ∨ binding.caseNonce = 0 ∨
      knownReleaseMode binding.releaseMode = false ∨
      validReleaseAuthority library binding = false ∨
      passes (binding.participantA.validate .a) = false ∨
      passes (binding.participantB.validate .b) = false ∨
      binding.participantA.id = binding.participantB.id ∨
      binding.participantA.signingPublicKey = binding.participantB.signingPublicKey ∨
      binding.participantOrder ≠ [binding.participantA.id, binding.participantB.id] ∨
      binding.createdAtUnix ≤ 0 ∨ binding.expiresAtUnix ≤ binding.createdAtUnix)
    (thrown .binding)

def FHECaseBinding.digest (binding : FHECaseBinding) : Digest :=
  digestCanonical library .caseBinding binding

/-- `expectedParticipant`. -/
def FHECaseBinding.participant (binding : FHECaseBinding) : Role → ParticipantIdentity
  | .a => binding.participantA
  | .b => binding.participantB

/-- One turn of the loop in `validateCryptoManifest`. -/
def validGaloisKey (entry : GaloisKeyRef) (index : ℕ) (step : ℤ) : Bool :=
  entry.index.toNat = index && entry.step = step && entry.element ≠ 0 &&
    passes (entry.object.validate (PublicObject.galoisKey index).name (96 * 2 ^ 20))

def validateCryptoManifest (binding : FHECaseBinding) (crypto : CaseCryptoManifest) :
    Except Thrown Unit := do
  revertIf (crypto.schemaVersion ≠ caseCryptoSchema ∨
      passes (crypto.parameters.validate PublicObject.parameters.name (2 ^ 20)) = false ∨
      passes (crypto.publicKey.validate PublicObject.publicKey.name (64 * 2 ^ 20)) = false ∨
      crypto.publicKey.digest ≠ binding.publicKeyDigest ∨
      passes (crypto.evaluationKeys.relinearizationKey.validate
        PublicObject.relinearizationKey.name (96 * 2 ^ 20)) = false ∨
      crypto.evaluationKeys.galoisKeys.length ≠ rotationSteps.length)
    (thrown .binding)
  revertIf (((crypto.evaluationKeys.galoisKeys.zip rotationSteps).zipIdx.all
      fun ((entry, step), index) => validGaloisKey entry index step) = false)
    (thrown .binding)
  revertIf (digestCanonical library .evaluationKeys crypto.evaluationKeys ≠
      binding.evaluationKeyManifestDigest)
    (thrown .binding)

def verifyBindingSignature (binding : FHECaseBinding) (signature : ParticipantBindingSignature)
    (identity : ParticipantIdentity) : Except Thrown Unit := do
  revertIf (signature.role ≠ identity.role ∨ signature.participantID ≠ identity.id ∨
      signature.bindingDigest ≠ binding.digest library)
    (thrown .binding)
  verifyCanonical library identity.signingPublicKey "MordantFHECaseBindingSignature/v1"
    .bindingStatement signature.toParticipantBindingStatement signature.signature

variable (seen : PublicObject → Option Bytes)

def loadCaseFoundation : Except Thrown (FHECaseBinding × CaseCryptoManifest) := do
  let (binding, _) ← (readJSON library .caseBinding (seen .caseBinding)).mapError fun _ =>
    thrown .binding
  binding.validate library
  let (crypto, _) ← readJSON library .caseCrypto (seen .caseCrypto)
  revertIf (crypto.schemaVersion ≠ caseCryptoSchema) (thrown .artifact)
  validateCryptoManifest library binding crypto
  pure (binding, crypto)

def loadCaseManifest : Except Thrown FHECaseManifest := do
  let (manifest, _) ← readJSON library .caseManifest (seen .caseManifest)
  revertIf (manifest.schemaVersion ≠ caseManifestSchema ∨
      passes (manifest.binding.validate library) = false)
    (thrown .artifact)
  let (binding, crypto) ← loadCaseFoundation library seen
  revertIf (manifest.binding.digest library ≠ binding.digest library ∨
      digestCanonical library .caseCrypto manifest.crypto ≠
        digestCanonical library .caseCrypto crypto ∨
      passes (validateCryptoManifest library manifest.binding manifest.crypto) = false)
    (thrown .binding)
  revertIf (passes (verifyBindingSignature library manifest.binding manifest.signatureA
        manifest.binding.participantA) = false ∨
      passes (verifyBindingSignature library manifest.binding manifest.signatureB
        manifest.binding.participantB) = false)
    (thrown .binding)
  revertIf (digestCanonical library .evaluationKeys manifest.crypto.evaluationKeys ≠
        manifest.binding.evaluationKeyManifestDigest ∨
      manifest.crypto.publicKey.digest ≠ manifest.binding.publicKeyDigest)
    (thrown .binding)
  pure manifest

def loadReleaseAuthority (manifest : FHECaseManifest) :
    Except Thrown ReleaseAuthorityManifest := do
  let (authority, _) ← readJSON library .releaseAuthority (seen .releaseAuthority)
  revertIf (authority.schemaVersion ≠ releaseAuthoritySchema ∨
      authority.caseID ≠ manifest.binding.caseID ∨
      authority.caseBindingDigest ≠ manifest.binding.digest library ∨
      authority.releaseMode ≠ manifest.binding.releaseMode ∨
      authority.authorityID ≠ manifest.binding.releaseAuthorityID ∨
      authority.signingPublicKey ≠ manifest.binding.releaseAuthorityPublicKey ∨
      knownReleaseMode authority.releaseMode = false ∨ authority.authorityID = 0 ∨
      authority.sourceProvenance = 0 ∨ authority.signingPublicKey.length ≠ 32 ∨
      passes (verifyCanonical library authority.signingPublicKey "MordantReleaseAuthority/v1"
        .releaseAuthority { authority with signature := [] } authority.signature) = false)
    (thrown .binding)
  revertIf (releaseAuthorityIdentity library authority.releaseMode authority.signingPublicKey ≠
      authority.authorityID)
    (thrown .binding)
  pure authority

/-! ## What the evaluator published -/

def resultCommitment (resultBytes : Bytes) : Digest :=
  library.sha256 (stringBytes "MordantFixedConflictCiphertext/v1" ++ [0] ++ resultBytes)

/-- The digest of a document as it is stored, without the last byte. -/
def documentDigest (bytes : Bytes) : Digest := library.sha256 bytes.dropLast

/-- The participant manifest of a role is the one whose digest the artifact names. -/
def validateParticipantDigest (role : Role) (expected : Option Digest) : Except Thrown Unit := do
  let (bytes, _) ← (readNamed library (PublicObject.submissionManifest role).name
    (seen (.submissionManifest role)) maxManifestBytes).mapError fun _ => thrown .binding
  revertIf (some (documentDigest library bytes) ≠ expected) (thrown .binding)

def validateEvaluatedArtifact (manifest : FHECaseManifest) (artifact : EvaluatedConflictArtifact) :
    Except Thrown Bytes := do
  let bindingDigest := manifest.binding.digest library
  revertIf (artifact.schemaVersion ≠ evaluatedArtifactSchema ∨
      artifact.caseID ≠ manifest.binding.caseID ∨ artifact.caseBindingDigest ≠ bindingDigest ∨
      artifact.assetIdentity ≠ manifest.binding.assetIdentity ∨
      artifact.participantArtifactDigests.length ≠ 2 ∨ 0 ∈ artifact.participantArtifactDigests ∨
      artifact.publicKeyDigest ≠ manifest.binding.publicKeyDigest ∨
      artifact.parameterProfile ≠ parameterProfile ∨
      artifact.parameterFingerprint ≠ manifest.binding.parameterFingerprint ∨
      artifact.circuitID ≠ circuitID ∨ artifact.circuitVersion ≠ Coalition.circuitV5Version ∨
      artifact.circuitDigest ≠ library.fixedCircuitDigest ∨
      artifact.resultCiphertext.path ≠ PublicObject.resultCiphertext.name ∨
      artifact.outputSchema ≠ resultSchema ∨ artifact.outputSlot ≠ resultSlot ∨
      artifact.evaluatorProvenance = 0 ∨ artifact.resultCiphertextCommitment = 0 ∨
      artifact.evaluatedAtUnix ≤ 0)
    (thrown .binding)
  validateParticipantDigest library seen .a artifact.participantArtifactDigests[0]?
  validateParticipantDigest library seen .b artifact.participantArtifactDigests[1]?
  let resultBytes ← (read library artifact.resultCiphertext (seen .resultCiphertext)
    (128 * 2 ^ 20)).mapError fun _ => thrown .artifact
  revertIf (resultCommitment library resultBytes ≠ artifact.resultCiphertextCommitment)
    (thrown .artifact)
  let (admission, _) ← readJSON library .evaluationAdmission (seen .evaluationAdmission)
  revertIf (admission.schemaVersion ≠ evaluationAdmissionSchema ∨
      admission.caseID ≠ manifest.binding.caseID ∨ admission.caseBindingDigest ≠ bindingDigest ∨
      admission.participantArtifactDigests ≠ artifact.participantArtifactDigests ∨
      admission.evaluatorProvenance ≠ artifact.evaluatorProvenance ∨ admission.admittedAtUnix ≤ 0)
    (thrown .artifact)
  let (completed, _) ← readJSON library .evaluationCompleted (seen .evaluationCompleted)
  revertIf (completed.schemaVersion ≠ evaluationCompletedSchema ∨
      completed.caseID ≠ manifest.binding.caseID ∨ completed.caseBindingDigest ≠ bindingDigest ∨
      completed.evaluatedArtifactDigest ≠ digestCanonical library .evaluatedArtifact artifact ∨
      completed.resultCiphertextDigest ≠ artifact.resultCiphertext.digest ∨
      completed.resultCiphertextCommitment ≠ artifact.resultCiphertextCommitment ∨
      completed.completedAtUnix ≤ 0)
    (thrown .artifact)
  pure resultBytes

def loadEvaluatedArtifact (manifest : FHECaseManifest) :
    Except Thrown (EvaluatedConflictArtifact × Bytes × Digest) := do
  let (artifact, artifactBytes) ← readJSON library .evaluatedArtifact (seen .evaluatedArtifact)
  let resultBytes ← validateEvaluatedArtifact library seen manifest artifact
  pure (artifact, resultBytes, documentDigest library artifactBytes)

/-! ## What the participants submitted -/

/-- `loadPublicEncryptionMaterial`: the parameters and the public key. -/
def loadPublicEncryptionMaterial (crypto : CaseCryptoManifest) : Except Thrown (Bytes × Bytes) := do
  let parameterBytes ← (read library crypto.parameters (seen .parameters) (2 ^ 20)).mapError
    fun _ => thrown .artifact
  let params ← require (thrown .artifact) (library.unmarshalParameters parameterBytes)
  revertIf (library.sha256 params ≠ crypto.parameters.digest) (thrown .artifact)
  let publicBytes ← read library crypto.publicKey (seen .publicKey) (64 * 2 ^ 20)
  let publicKey ← require (thrown .artifact) (library.unmarshalPublicKey params publicBytes)
  revertIf (library.sha256 publicKey ≠ crypto.publicKey.digest) (thrown .artifact)
  pure (params, publicKey)

/-- `caseExternalClient`, and the checks that every caller makes of the client. -/
def caseExternalClient (binding : FHECaseBinding) (params publicKey : Bytes) :
    Except Thrown ExternalClient := do
  let (client, custody) :=
    if binding.releaseMode = releaseModeCoalitionV5 then
      (library.newCeremonyExternalClient params publicKey, CustodyModel.dealerlessCeremony)
    else (library.newGovernedExternalClient params publicKey, CustodyModel.governedEphemeral)
  let client ← require (thrown .ciphertextValidation) client
  revertIf (client.custody ≠ custody ∨ client.keyIDBytes ≠ binding.publicKeyDigest ∨
      client.parameterFingerprint ≠ binding.parameterFingerprint)
    (thrown .ciphertextValidation)
  pure client

/-- `participantCiphertextComponents`. -/
def CipherPledge.components (pledge : CipherPledge) : List (String × Option Ciphertext) :=
  [("policyBits", some pledge.policyBits), ("currencyBits", some pledge.currencyBits),
    ("amountBits", some pledge.amountBits), ("obligationIdBits", some pledge.obligationIDBits),
    ("receivableIdBits", pledge.receivableIDBits)]

def participantCiphertextComponentNames : List String :=
  ["policyBits", "currencyBits", "amountBits", "obligationIdBits", "receivableIdBits"]

def componentRefs (pledge : CipherPledge) : Option (List CiphertextComponentRef) :=
  pledge.components.mapM fun (name, ciphertext) => do
    let encoded ← ciphertext
    pure ⟨name, library.sha256 encoded, encoded.length⟩

def loadParticipantArtifactMetadata (manifest : FHECaseManifest) (role : Role) (now : ℤ) :
    Except Thrown (EncryptedParticipantArtifact × Digest) := do
  let identity := manifest.binding.participant role
  let (artifact, artifactBytes) ←
    readJSON library .participantArtifact (seen (.submissionManifest role))
  revertIf (artifact.schemaVersion ≠ participantArtifactSchema ∨
      artifact.caseBindingDigest ≠ manifest.binding.digest library ∨
      artifact.caseID ≠ manifest.binding.caseID ∨
      artifact.assetIdentity ≠ manifest.binding.assetIdentity ∨
      artifact.participantID ≠ identity.id ∨ artifact.participantRole ≠ identity.role ∨
      artifact.publicKeyDigest ≠ manifest.binding.publicKeyDigest ∨
      artifact.parameterProfile ≠ parameterProfile ∨
      artifact.parameterFingerprint ≠ manifest.binding.parameterFingerprint ∨
      artifact.circuitDigest ≠ manifest.binding.circuitDigest ∨
      artifact.inputSchema ≠ inputSchema ∨
      passes (artifact.ciphertextObject.validate (PublicObject.submission role).name
        (192 * 2 ^ 20)) = false ∨
      artifact.components.length ≠ 5 ∨ artifact.submissionNonce = 0 ∨
      artifact.expiresAtUnix ≤ now ∨ artifact.expiresAtUnix > manifest.binding.expiresAtUnix)
    (thrown .binding)
  verifyCanonical library identity.signingPublicKey "MordantEncryptedParticipantArtifact/v1"
    .participantArtifact { artifact with signature := [] } artifact.signature
  revertIf (((artifact.components.zip participantCiphertextComponentNames).all
      fun (component, name) => component.name = name && component.digest ≠ 0 &&
        0 < component.length && component.length ≤ 64 * 2 ^ 20) = false)
    (thrown .artifact)
  pure (artifact, documentDigest library artifactBytes)

def loadParticipantCiphertext (manifest : FHECaseManifest) (role : Role)
    (artifact : EncryptedParticipantArtifact) : Except Thrown CipherPledge := do
  let path := artifact.ciphertextObject.path
  let ciphertextBytes ← (read library artifact.ciphertextObject (seen (.submission role))
    (192 * 2 ^ 20)).mapError fun error => { error with detail := "read " ++ path }
  let pledge ← require ⟨.ciphertextValidation, "decode " ++ path, .other⟩
    (library.unmarshalCipherPledge ciphertextBytes)
  revertIf (library.marshalCipherPledge pledge ≠ some ciphertextBytes)
    ⟨.ciphertextValidation, "noncanonical " ++ path, .other⟩
  revertIf (pledge.parameterFingerprint ≠ manifest.binding.parameterFingerprint ∨
      pledge.receivableIDBits = none ∨ pledge.receivableCommitment ≠ 0)
    (thrown .ciphertextValidation)
  let components ← require (thrown .artifact) (componentRefs library pledge)
  revertIf (components.length ≠ artifact.components.length) (thrown .artifact)
  revertIf (components ≠ artifact.components) (thrown .ciphertextValidation)
  pure pledge

/-- The ciphertexts of a pledge are fresh, under the key of the case. -/
def validateFreshPledge (binding : FHECaseBinding) (client : ExternalClient) (params : Bytes)
    (role : Role) (pledge : CipherPledge) : Except Thrown Unit := do
  revertIf (pledge.keyID ≠ client.keyID ∨
      pledge.parameterFingerprint ≠ binding.parameterFingerprint)
    ⟨.ciphertextValidation, role.text ++ " key binding", .other⟩
  revertIf ((pledge.components.all fun (_, ciphertext) =>
      ciphertext.any (library.freshCiphertext params)) = false)
    ⟨.ciphertextValidation, role.text, .other⟩

structure ValidatedFreshParticipants where
  artifactA : EncryptedParticipantArtifact
  artifactB : EncryptedParticipantArtifact
  pledgeA : CipherPledge
  pledgeB : CipherPledge
  digestA : Digest
  digestB : Digest

def loadAndValidateFreshParticipants (manifest : FHECaseManifest) (now : ℤ) :
    Except Thrown ValidatedFreshParticipants := do
  let (params, publicKey) ← loadPublicEncryptionMaterial library seen manifest.crypto
  let client ← caseExternalClient library manifest.binding params publicKey
  let (artifactA, digestA) ← (loadParticipantArtifactMetadata library seen manifest .a now).mapError
    fun error => { error with detail := "participant A metadata: " ++ error.detail }
  let (artifactB, digestB) ← (loadParticipantArtifactMetadata library seen manifest .b now).mapError
    fun error => { error with detail := "participant B metadata: " ++ error.detail }
  revertIf (artifactA.submissionNonce = artifactB.submissionNonce ∨ digestA = digestB)
    (thrown .binding)
  let pledgeA ← (loadParticipantCiphertext library seen manifest .a artifactA).mapError
    fun error => { error with detail := "participant A ciphertext: " ++ error.detail }
  let pledgeB ← (loadParticipantCiphertext library seen manifest .b artifactB).mapError
    fun error => { error with detail := "participant B ciphertext: " ++ error.detail }
  validateFreshPledge library manifest.binding client params .a pledgeA
  validateFreshPledge library manifest.binding client params .b pledgeB
  pure { artifactA, artifactB, pledgeA, pledgeB, digestA, digestB }

/-! ## The evaluation keys -/

/-- One turn of the loop in `loadEvaluationKeyMaterial`. -/
def loadGaloisKey (params : Bytes) (entry : GaloisKeyRef) (index : ℕ) (step : ℤ)
    (element : Word64) : Except Thrown Bytes := do
  revertIf (entry.index.toNat ≠ index ∨ entry.step ≠ step ∨ entry.element ≠ element ∨
      entry.object.path ≠ (PublicObject.galoisKey index).name)
    (thrown .binding)
  let encoded ← read library entry.object (seen (.galoisKey index)) (96 * 2 ^ 20)
  let actual ← require (thrown .artifact) (library.unmarshalGaloisKey params encoded)
  revertIf (actual ≠ element) (thrown .artifact)
  pure encoded

def loadEvaluationKeyMaterial (manifest : FHECaseManifest) (params : Bytes) :
    Except Thrown (Bytes × List Bytes) := do
  let keys := manifest.crypto.evaluationKeys
  let relinearization ← (read library keys.relinearizationKey (seen .relinearizationKey)
    (96 * 2 ^ 20)).mapError fun _ => thrown .artifact
  revertIf (keys.relinearizationKey.path ≠ PublicObject.relinearizationKey.name)
    (thrown .artifact)
  revertIf (library.validRelinearizationKey params relinearization = false) (thrown .artifact)
  let elements ← require (thrown .binding) (library.galoisElements params)
  revertIf (keys.galoisKeys.length ≠ elements.length) (thrown .binding)
  let galoisKeys ← ((keys.galoisKeys.zip (rotationSteps.zip elements)).zipIdx.mapM
    fun ((entry, step, element), index) =>
      loadGaloisKey library seen params entry index step element)
  pure (relinearization, galoisKeys)

def loadEvaluationRuntime (manifest : FHECaseManifest) : Except Thrown Runtime := do
  let (params, publicKey) ← loadPublicEncryptionMaterial library seen manifest.crypto
  let (relinearization, galoisKeys) ← loadEvaluationKeyMaterial library seen manifest params
  let runtime ← require (thrown .binding)
    (if manifest.binding.releaseMode = releaseModeCoalitionV5 then
      library.newCoalitionEvaluationRuntime params publicKey relinearization galoisKeys
    else library.newGovernedEvaluationRuntime params publicKey relinearization galoisKeys)
  revertIf (runtime.holdsThresholdParties = true ∨
      runtime.keyIDBytes ≠ manifest.binding.publicKeyDigest ∨
      runtime.parameterFingerprint ≠ manifest.binding.parameterFingerprint)
    (thrown .binding)
  pure runtime

end

end Mordant.GovernedFhe
