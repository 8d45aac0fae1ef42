/-
# Proving admissions again

A direct preparation settles for two wallets that were admitted some time ago.  It
reads the struct each of them signed out of the admission ledger, holds the record
against the evidence, and recovers the signer of the struct, without asking anyone.

What the struct says is compared with the evidence field by field.  The service, the
asset, the interval, the window and the key it names are not among those fields.
-/

import Mordant.Protection.AdmissionLedger
import Mordant.Protection.Compatibility
import Mordant.Protection.EvidenceBinding
import Mordant.Protection.ParticipantAuthorization

namespace Mordant.Protection

open Foundation Script

structure DirectParticipantAdmissionFact where
  role : ParticipantRole
  participantWallet : Text
  authorizationDigest : Text
  claimCommitment : Text
  authorizationNonce : Text
  chainId : Number
  eligibilityBlock : Number
  authorization : Option Json
  signature : Option Text

/-- `VerifiedAdmissionProof`. Which schema was proved shows in the digest of the key. -/
structure VerifiedAdmissionProof where
  role : ParticipantRole
  wallet : Text
  recoveredSigner : Text
  authorizationDigest : Text
  participantSigningKeyDigest : Option Text

/-- What a proof throws. -/
inductive AdmissionProofThrown
  /-- A `DirectParticipantBridgeEvidenceError`. -/
  | failed (code message : String)
  | authorization (inner : AuthorizationThrown)
  deriving DecidableEq

/-- What a direct preparation uses of the libraries. -/
structure DirectRuntime extends BridgeRuntime, AuthorizationRuntime

/-- A failure of the proof itself. -/
def refuses (condition : Prop) [Decidable condition] (code message : String) :
    Except AdmissionProofThrown Unit :=
  revertIf condition (.failed code message)

section

variable (runtime : AuthorizationRuntime)

/-- The struct of an authorization. The one field that tells the versions apart decides
which it is. -/
def parseAdmission (authorization : Json) : Except AuthorizationThrown AdmissionMessage :=
  if (authorization.get "participantSigningKeyDigest").isSome then
    .v2 <$> assertParticipantAdmissionV2Message authorization
  else .v1 <$> assertParticipantAdmissionMessage runtime authorization

/-- The signed fields against the run. -/
def checkSignedFields (message : ParticipantAdmissionMessage)
    (fact : DirectParticipantAdmissionFact) (runId fheCaseId protectionBindingDigest : Text) :
    Except AdmissionProofThrown Unit := do
  refuses (message.role ≠ fact.role) "ADMISSION_PROOF_ROLE"
    "The signed admission is for a different role"
  refuses (runtime.toLowerCase message.participantWallet ≠
      runtime.toLowerCase fact.participantWallet)
    "ADMISSION_PROOF_WALLET" "The signed admission is for a different wallet"
  refuses (differsFrom message.runId runId = true) "ADMISSION_PROOF_RUN"
    "The signed admission is for a different run"
  let case ← (digestToBytes32 fheCaseId).mapError fun thrown => .authorization (.digest thrown)
  refuses (message.fheCaseId ≠ case.text) "ADMISSION_PROOF_CASE"
    "The signed admission is for a different FHE case"
  let binding ← (digestToBytes32 protectionBindingDigest).mapError fun thrown =>
    .authorization (.digest thrown)
  refuses (message.protectionBindingDigest ≠ binding.text) "ADMISSION_PROOF_BINDING"
    "The signed admission is for a different protection binding"
  refuses (runtime.toLowerCase message.authorizationNonce ≠
      runtime.toLowerCase fact.authorizationNonce)
    "ADMISSION_PROOF_NONCE" "The signed admission carries a different nonce"
  refuses (fact.chainId ≠ .ofInt 10143) "ADMISSION_PROOF_CHAIN"
    "The admission is not bound to Monad testnet"

/-- The digest of the struct, and who signed it. -/
def recoverSigner (message : AdmissionMessage) (fact : DirectParticipantAdmissionFact)
    (signature : Text) : Except AdmissionProofThrown Text := do
  let typedData := message.typedData runtime fact.chainId
  let digest ← require (.authorization .rejected) (runtime.hashAdmission typedData)
  refuses (runtime.toLowerCase digest.text ≠ runtime.toLowerCase fact.authorizationDigest)
    "ADMISSION_PROOF_DIGEST"
    "The retained authorization digest is not the digest of the signed struct"
  let recovered ← require (.failed "ADMISSION_PROOF_SIGNATURE"
    (fact.role.text ++ " admission signature could not be recovered"))
    (runtime.recoverAdmission typedData signature)
  refuses (runtime.toLowerCase recovered ≠ runtime.toLowerCase fact.participantWallet)
    "ADMISSION_PROOF_SIGNER" "The admission was signed by a different wallet"
  pure recovered

def assertParticipantAdmissionProof (fact : DirectParticipantAdmissionFact)
    (runId fheCaseId protectionBindingDigest : Text) :
    Except AdmissionProofThrown VerifiedAdmissionProof :=
  match fact.authorization, fact.signature with
  | some authorization, some signature => do
    refuses (matchesDigits isHexDigit "0x" 130 signature = false) "ADMISSION_PROOF_SIGNATURE"
      (fact.role.text ++ " admission signature has an unexpected shape")
    let message ← (parseAdmission runtime authorization).mapError .authorization
    checkSignedFields runtime message.signed fact runId fheCaseId protectionBindingDigest
    let recovered ← recoverSigner runtime message fact signature
    pure ⟨fact.role, fact.participantWallet, recovered, fact.authorizationDigest,
      message.signingKeyDigest⟩
  | _, _ => .error (.failed "ADMISSION_PROOF_MISSING"
      (fact.role.text ++ " carries no signed admission authorization"))

end

/-! ## The admissions of a run -/

/-- The evidence file of a run. -/
inductive EvidenceFile
  | absent
  /-- Its text is no JSON. -/
  | malformed
  | complete (value : Json)

def readDirectParticipantBridgeEvidence (file : EvidenceFile) (runId : Text) :
    Except BridgeThrown Json := do
  revertIf (isRunId runId = false)
    (.execution "RUN_ID" "The direct-participant run id is rejected")
  match file with
  | .absent => throw (.execution "DIRECT_EVIDENCE_MISSING"
      "This run has no direct-participant bridge evidence")
  | .malformed => throw (.execution "DIRECT_EVIDENCE_JSON"
      "The retained direct-participant bridge evidence is not valid JSON")
  | .complete value => pure value

/-- An admission of the evidence, as its verification leaves it. -/
def admissionFactOf (entry : Json) : Option DirectParticipantAdmissionFact := do
  let role ← (textOf entry "role").bind ParticipantRole.ofText?
  let participantWallet ← textOf entry "participantWallet"
  let authorizationDigest ← textOf entry "authorizationDigest"
  let claimCommitment ← textOf entry "claimCommitment"
  let authorizationNonce ← textOf entry "authorizationNonce"
  let chainId ← (entry.get "chainId").bind Json.asNumber
  let eligibilityBlock ← (entry.get "eligibilityBlock").bind Json.asNumber
  pure
    { role := role
      participantWallet := participantWallet
      authorizationDigest := authorizationDigest
      claimCommitment := claimCommitment
      authorizationNonce := authorizationNonce
      chainId := chainId
      eligibilityBlock := eligibilityBlock
      authorization := entry.get "authorization"
      signature := textOf entry "signature" }

section

variable (runtime : DirectRuntime)

/-- One of the cross references. -/
def crossReference (name : String) (same : Bool) : Except LoadFailure Unit :=
  revertIf (same = false) (.execution "ADMISSION_PROOF"
    ("The durable admission " ++ name ++ " disagrees with the bridge evidence"))

/-- The durable record against the evidence; strings in any letter case. -/
def checkCrossReferences (record : ParticipantAdmissionRecord)
    (fact : DirectParticipantAdmissionFact) : Except LoadFailure Unit := do
  crossReference "wallet"
    (sameAddress runtime.toRuntime record.participantWallet.text fact.participantWallet)
  crossReference "authorizationDigest"
    (sameAddress runtime.toRuntime record.authorizationDigest.text fact.authorizationDigest)
  crossReference "authorizationNonce"
    (sameAddress runtime.toRuntime record.authorizationNonce.text fact.authorizationNonce)
  crossReference "claimCommitment"
    (sameAddress runtime.toRuntime record.claimCommitment.text fact.claimCommitment)
  crossReference "chainId" (record.chainId.strictEq fact.chainId)
  crossReference "eligibilityBlock" (record.eligibilityBlock.strictEq fact.eligibilityBlock)

/-- One participant of the loop. The record's authorization and signature are the ones
that are proved. -/
def proveParticipant (files : AdmissionFiles) (runId fheCaseId protectionBindingDigest : Text)
    (entry : Json) : Except LoadFailure Unit := do
  let fact ← require .other (admissionFactOf entry)
  let durable ← (readAdmission files runId fact.role).mapError fun _ => .other
  let record ← require (.execution "ADMISSION_PROOF"
    (fact.role.text ++ " has no durable admission record for this run")) durable
  checkCrossReferences runtime record fact
  let _ ← (assertParticipantAdmissionProof runtime.toAuthorizationRuntime
    { fact with
      authorization := record.authorization
      signature := record.signature.map Hex.text }
    runId fheCaseId protectionBindingDigest).mapError fun _ => .other

/-- The loop over the participants. -/
def proveParticipants (files : AdmissionFiles) (runId fheCaseId protectionBindingDigest : Text) :
    List Json → Except LoadFailure Unit
  | [] => pure ()
  | entry :: rest => do
    proveParticipant runtime files runId fheCaseId protectionBindingDigest entry
    proveParticipants files runId fheCaseId protectionBindingDigest rest

/-- `directParticipantRelease`. Every member it reads is a string in verified evidence. -/
def directParticipantRelease (verified : VerifiedDirectParticipantBridgeEvidence) :
    Option VerifiedGovernedRelease := do
  let result := verified.governedResult
  let artifact (index : ℕ) : Option Text :=
    (((result.get "participantArtifactDigests").bind (·.element index)).bind Json.asText)
  let runId ← textOf verified.evidence "runId"
  let fheCaseId ← textOf result "caseId"
  let caseBindingDigest ← textOf result "caseBindingDigest"
  let assetIdentity ← textOf result "assetIdentity"
  let governedResultDigest ← textOf verified.evidence "governedResultDigest"
  let resultCiphertextDigest ← textOf result "resultCiphertextDigest"
  let participantArtifactDigestA ← artifact 0
  let participantArtifactDigestB ← artifact 1
  let circuitDigest ← textOf result "circuitDigest"
  let parameterFingerprint ← textOf result "parameterFingerprint"
  let releaseAuthorityId ← textOf result "releaseAuthorityId"
  let releaseMode ← textOf result "releaseMode"
  pure
    { runId := runId
      fheCaseId := fheCaseId
      caseBindingDigest := caseBindingDigest
      assetIdentity := assetIdentity
      governedResultDigest := governedResultDigest
      resultCiphertextDigest := resultCiphertextDigest
      participantArtifactDigestA := participantArtifactDigestA
      participantArtifactDigestB := participantArtifactDigestB
      circuitDigest := circuitDigest
      parameterFingerprint := parameterFingerprint
      releaseAuthorityId := releaseAuthorityId
      releaseMode := releaseMode
      conflict := verified.conflict }

/-- What a direct preparation is made from. -/
structure DirectPreparation where
  configured : Hex
  loadConfiguration : Except LoadFailure CanonicalRecourseConfiguration
  runId : Text
  /-- The server's build pin. -/
  sourceCommit : Text
  /-- `CANONICAL_CLEANVERSE_ASSET_DIGEST`. -/
  canonicalAsset : Text
  evidence : EvidenceFile
  admissions : AdmissionFiles
  loadProof : Except LoadFailure CaseAdapterDeploymentProof
  window : BridgeWindow
  settlement : Option SettlementAuthorityInput

/-- What the evidence is held against. -/
def DirectPreparation.expectations (input : DirectPreparation)
    (participants : CommittedParticipants) : DirectParticipantBridgeExpectations where
  sourceCommit := input.sourceCommit
  assetIdentity := input.canonicalAsset
  holderA := participants.holderA.text
  holderB := participants.holderB.text
  excludedWallets :=
    [participants.negativeControl.text, participants.uncontrolledApassWallet.text]
  runId := some input.runId

/-- The evidence and the admissions, as `buildPreparedDirect` verifies them. -/
def verifyDirectParticipants (input : DirectPreparation)
    (configuration : CanonicalRecourseConfiguration) :
    Except BridgeThrown (VerifiedHolders × VerifiedGovernedRelease) := do
  let evidence ← readDirectParticipantBridgeEvidence input.evidence input.runId
  let verified ← reported ((assertDirectParticipantBridgeEvidence
      runtime.toAuthorizationRuntime.toEvidenceRuntime evidence
      (input.expectations configuration.participants)).mapError fun _ => .other)
    "DIRECT_EVIDENCE" "The direct-participant bridge evidence was rejected"
  reported (do
      let runId ← require .other (textOf verified.evidence "runId")
      let fheCaseId ← require .other (textOf verified.evidence "fheCaseId")
      let protectionBindingDigest ←
        require .other (textOf verified.evidence "protectionBindingDigest")
      let participants ← require .other ((verified.evidence.get "participants").bind spread)
      proveParticipants runtime input.admissions runId fheCaseId protectionBindingDigest
        participants)
    "ADMISSION_PROOF" "A participant wallet authorization could not be re-verified"
  let release ← require .other (directParticipantRelease verified)
  pure (⟨verified.holderA, verified.holderB⟩, release)

/-- `buildPreparedDirect`, from the files of the run. -/
def prepareDirect (reader : AdapterReader) (input : DirectPreparation) :
    Except BridgeThrown PreparedState :=
  buildPreparedDirect runtime.toBridgeRuntime reader input.configured input.loadConfiguration
    (verifyDirectParticipants runtime input) input.loadProof input.window input.settlement

end

/-! ## What a proof establishes -/

section

variable {runtime : DirectRuntime} {files : AdmissionFiles}
  {fact : DirectParticipantAdmissionFact} {record : ParticipantAdmissionRecord}
  {message : AdmissionMessage} {runId fheCaseId protectionBindingDigest signature recovered : Text}
  {u : Unit}

theorem refuses_ok_iff {condition : Prop} [Decidable condition] {code message : String} :
    refuses condition code message = .ok u ↔ ¬ condition :=
  revertIf_ok_iff

/-- The fields of a struct that are held against the run. -/
structure ChecksSignedFields (runtime : AuthorizationRuntime)
    (message : ParticipantAdmissionMessage)
    (fact : DirectParticipantAdmissionFact) (runId fheCaseId protectionBindingDigest : Text) :
    Prop where
  role : message.role = fact.role
  wallet : runtime.toLowerCase message.participantWallet =
    runtime.toLowerCase fact.participantWallet
  runId : message.runId = .text runId
  fheCaseId : ∃ digest, digestToBytes32 fheCaseId = .ok digest ∧ message.fheCaseId = digest.text
  binding : ∃ digest, digestToBytes32 protectionBindingDigest = .ok digest ∧
    message.protectionBindingDigest = digest.text
  nonce : runtime.toLowerCase message.authorizationNonce =
    runtime.toLowerCase fact.authorizationNonce
  chainId : fact.chainId = .ofInt 10143

theorem checkSignedFields_ok {runtime : AuthorizationRuntime}
    {message : ParticipantAdmissionMessage}
    (h : checkSignedFields runtime message fact runId fheCaseId protectionBindingDigest = .ok u) :
    ChecksSignedFields runtime message fact runId fheCaseId protectionBindingDigest := by
  simp only [checkSignedFields, bind_ok_iff, refuses_ok_iff, not_not, differsFrom_eq_false_iff,
    mapError_ok_iff] at h
  obtain ⟨_, hrole, _, hwallet, _, hrun, case, hcase, _, hsignedCase, binding, hbinding, _,
    hsignedBinding, _, hnonce, hchain⟩ := h
  exact ⟨hrole, hwallet, hrun, ⟨case, hcase, hsignedCase⟩, ⟨binding, hbinding, hsignedBinding⟩,
    hnonce, hchain⟩

/-- What one participant of the loop was found to be: a record of its role, whose struct
its wallet signed. -/
structure ProvedAdmission (runtime : DirectRuntime) (files : AdmissionFiles)
    (runId fheCaseId protectionBindingDigest : Text) (fact : DirectParticipantAdmissionFact)
    (record : ParticipantAdmissionRecord) (message : AdmissionMessage) : Prop where
  retained : readAdmission files runId fact.role = .ok (some record)
  parsed : record.authorization.map (parseAdmission runtime.toAuthorizationRuntime) =
    some (.ok message)
  nonce : sameAddress runtime.toRuntime record.authorizationNonce.text
    fact.authorizationNonce = true
  signed : ChecksSignedFields runtime.toAuthorizationRuntime message.signed fact runId fheCaseId
    protectionBindingDigest
  signer : ∃ signature recovered, record.signature = some signature ∧
    runtime.recoverAdmission (message.typedData runtime.toAuthorizationRuntime fact.chainId)
      signature.text = some recovered ∧
    runtime.toLowerCase recovered = runtime.toLowerCase fact.participantWallet

theorem proveParticipant_ok {entry : Json}
    (h : proveParticipant runtime files runId fheCaseId protectionBindingDigest entry = .ok u) :
    ∃ fact record message, admissionFactOf entry = some fact ∧
      ProvedAdmission runtime files runId fheCaseId protectionBindingDigest fact record
        message := by
  simp only [proveParticipant, bind_ok_iff, require_ok_iff, mapError_ok_iff] at h
  obtain ⟨fact, hfact, _, hread, record, rfl, _, hcross, proof, hproof, -⟩ := h
  simp only [checkCrossReferences, crossReference, bind_ok_iff, revertIf_ok_iff,
    Bool.not_eq_false] at hcross
  obtain ⟨_, -, _, -, _, hnonce, -⟩ := hcross
  unfold assertParticipantAdmissionProof at hproof
  cases hauthorization : record.authorization with
  | none =>
      simp only [hauthorization] at hproof
      cases hproof
  | some authorization =>
      cases hsignature : record.signature with
      | none =>
          simp only [hauthorization, hsignature, Option.map_none] at hproof
          cases hproof
      | some signature =>
          simp only [hauthorization, hsignature, Option.map_some, bind_ok_iff,
            mapError_ok_iff] at hproof
          obtain ⟨_, -, message, hparsed, _, hchecked, recovered, hrecovered, -⟩ := hproof
          simp only [recoverSigner, bind_ok_iff, require_ok_iff, refuses_ok_iff, not_not,
            pure_ok_iff] at hrecovered
          obtain ⟨_, -, _, -, _, hsigner, _, hwallet, rfl⟩ := hrecovered
          refine ⟨fact, record, message, hfact, hread, ?_, hnonce, ?_, signature, _, hsignature,
            hsigner, hwallet⟩
          · rw [hauthorization]
            exact congrArg some hparsed
          · have h := checkSignedFields_ok hchecked
            exact ⟨h.role, h.wallet, h.runId, h.fheCaseId, h.binding, h.nonce, h.chainId⟩

theorem proveParticipants_ok {entries : List Json}
    (h : proveParticipants runtime files runId fheCaseId protectionBindingDigest entries = .ok u) :
    ∀ entry ∈ entries, ∃ fact record message, admissionFactOf entry = some fact ∧
      ProvedAdmission runtime files runId fheCaseId protectionBindingDigest fact record
        message := by
  induction entries with
  | nil =>
      intro entry hentry
      exact nomatch hentry
  | cons head rest ih =>
      obtain ⟨_, hhead, hrest⟩ := bind_ok_iff.mp h
      intro entry hentry
      rcases List.mem_cons.mp hentry with rfl | hentry
      · exact proveParticipant_ok hhead
      · exact ih hrest entry hentry

end

/-! ## What verified evidence says -/

section

variable {runtime : EvidenceRuntime} {value result : Json} {digests : EvidenceDigests}
  {binding : DirectParticipantCaseBinding} {expectations : DirectParticipantBridgeExpectations}
  {verified : VerifiedDirectParticipantBridgeEvidence}

/-- The run of the evidence is the one that is expected. -/
theorem checkProvenance_run {sourceCommit runId : Option Json} {expected : Text} {u : Unit}
    (hexpected : expectations.runId = some expected)
    (h : checkProvenance sourceCommit runId expectations = .ok u) :
    runId = some (.text expected) := by
  simp only [checkProvenance, bind_ok_iff, requireText_ok_iff, rejects_ok_iff] at h
  obtain ⟨_, -, _, -, _, -, run, ⟨hrun, -⟩, hsame⟩ := h
  rw [hexpected, not_and, not_not] at hsame
  rw [hrun, Option.some.inj (hsame rfl)]

/-- The signed asset is the one that is expected. -/
theorem checkBinding_asset {expectedAsset : Text} {u : Unit}
    (h : checkBinding runtime result digests binding expectedAsset = .ok u) :
    textOf result "assetIdentity" = some expectedAsset := by
  simp only [checkBinding, bind_ok_iff, rejects_ok_iff, not_not, digest_ok_iff] at h
  obtain ⟨_, -, _, -, _, -, _, -, asset, ⟨hasset, -⟩, _, hsigned, -⟩ := h
  rw [hsigned, Json.text.inj (Option.some.inj hasset)]

theorem checkAdmission_ok {entry : Json} {role : ParticipantRole} {label : String} {wallet : Text}
    (h : checkAdmission entry role label = .ok wallet) :
    textOf entry "role" = some (lit role.text) ∧
      entry.get "participantWallet" = some (.text wallet) := by
  simp only [checkAdmission, bind_ok_iff, rejects_ok_iff, not_not] at h
  obtain ⟨_, -, _, hrole, _, -, _, -, _, -, _, -, _, -, hwallet⟩ := h
  exact ⟨hrole, (requireText_ok_iff.mp hwallet).1⟩

/-- The two admissions of the evidence, by role: its role and its wallet, the holder's. -/
theorem checkAdmissions_ok {participants : Option Json} {holderA holderB : Text}
    (h : checkAdmissions runtime participants expectations = .ok (holderA, holderB)) :
    ∃ entry : ParticipantRole → Json,
      participants = some (.array [entry .participantA, entry .participantB]) ∧
      (∀ role, textOf (entry role) "role" = some (lit role.text)) ∧
      (entry .participantA).get "participantWallet" = some (.text holderA) ∧
      (entry .participantB).get "participantWallet" = some (.text holderB) ∧
      sameAddress runtime.toRuntime holderA expectations.holderA = true ∧
      sameAddress runtime.toRuntime holderB expectations.holderB = true := by
  unfold checkAdmissions at h
  split at h
  · next entryA entryB =>
      simp only [bind_ok_iff, rejects_ok_iff, Bool.not_eq_false, pure_ok_iff, Prod.mk.injEq] at h
      obtain ⟨_, hA, _, hB, _, hpinA, _, hpinB, _, hsameA, _, hsameB, _, -, _, -, rfl, rfl⟩ := h
      obtain ⟨hroleA, hwalletA⟩ := checkAdmission_ok hA
      obtain ⟨hroleB, hwalletB⟩ := checkAdmission_ok hB
      obtain ⟨hholderA, -⟩ := requireText_ok_iff.mp hpinA
      obtain ⟨hholderB, -⟩ := requireText_ok_iff.mp hpinB
      rw [Json.text.inj (Option.some.inj hholderA), Json.text.inj (Option.some.inj hholderB)]
      refine ⟨ParticipantRole.rec entryA entryB, rfl, ?_, hwalletA, hwalletB, hsameA, hsameB⟩
      intro role
      cases role with
      | participantA => exact hroleA
      | participantB => exact hroleB
  · cases h

theorem ParticipantRole.ofText?_text (role : ParticipantRole) :
    ParticipantRole.ofText? (lit role.text) = some role := by
  cases role <;> decide

theorem admissionFactOf_ok {entry : Json} {fact : DirectParticipantAdmissionFact}
    {role : ParticipantRole} {wallet : Text} (hrole : textOf entry "role" = some (lit role.text))
    (hwallet : entry.get "participantWallet" = some (.text wallet))
    (h : admissionFactOf entry = some fact) :
    fact.role = role ∧ fact.participantWallet = wallet := by
  rw [← textOf_eq_some_iff] at hwallet
  simp only [admissionFactOf, hrole, hwallet, Option.bind_eq_bind, Option.bind_some,
    ParticipantRole.ofText?_text, Option.bind_eq_some_iff, Option.pure_def, Option.some.injEq] at h
  obtain ⟨_, -, _, -, _, -, _, -, _, -, rfl⟩ := h
  exact ⟨rfl, rfl⟩

theorem directParticipantRelease_ok {release : VerifiedGovernedRelease}
    (h : directParticipantRelease verified = some release) :
    textOf verified.evidence "runId" = some release.runId ∧
      textOf verified.governedResult "caseId" = some release.fheCaseId ∧
      textOf verified.governedResult "assetIdentity" = some release.assetIdentity := by
  simp only [directParticipantRelease, Option.bind_eq_bind, Option.bind_eq_some_iff,
    Option.pure_def, Option.some.injEq] at h
  obtain ⟨_, hrun, _, hcase, _, -, _, hasset, _, -, _, -, _, -, _, -, _, -, _, -, _, -, _, -,
    rfl⟩ := h
  exact ⟨hrun, hcase, hasset⟩

end

/-! ## What is settled -/

section

variable {runtime : DirectRuntime} {reader : AdapterReader} {input : DirectPreparation}
  {prepared : PreparedState}

/-- The committed holder of a role. -/
def CommittedParticipants.holder (participants : CommittedParticipants) : ParticipantRole → Hex
  | .participantA => participants.holderA
  | .participantB => participants.holderB

/-- The wallet a payload pays for a role. -/
def GovernedReleaseMessage.holder (message : GovernedReleaseMessage) : ParticipantRole → Hex
  | .participantA => message.holderA
  | .participantB => message.holderB

/-- What a payload takes from the release and the participants. -/
theorem buildGovernedBridgePayload_fields {runtime : BridgeRuntime} {bridge : BridgeInput}
    {payload : GovernedBridgePayload}
    (h : buildGovernedBridgePayload runtime bridge = .ok payload) :
    payload.message.runId = bridgeRunId runtime.toStoreRuntime bridge.release.runId ∧
      digestToBytes32 bridge.release.fheCaseId = .ok payload.message.fheCaseId ∧
      digestToBytes32 bridge.release.assetIdentity = .ok payload.message.assetIdentityDigest ∧
      payload.message.holderA = bridge.participants.holderA ∧
      payload.message.holderB = bridge.participants.holderB := by
  simp only [buildGovernedBridgePayload, releaseMessage, bind_ok_iff, pure_ok_iff] at h
  obtain ⟨_, -, _, -, _, -, _, -, _, -, _, ⟨_, hcase, _, -, _, hasset, _, -, _, -, _, -, _, -, rfl⟩,
    rfl⟩ := h
  exact ⟨rfl, hcase, hasset, rfl, rfl⟩

/-- The two of a role's records: what the ledger has, and the struct in it. -/
structure Retained (runtime : DirectRuntime) (input : DirectPreparation) (role : ParticipantRole)
    (record : ParticipantAdmissionRecord) (message : AdmissionMessage) : Prop where
  retained : readAdmission input.admissions input.runId role = .ok (some record)
  parsed : record.authorization.map (parseAdmission runtime.toAuthorizationRuntime) =
    some (.ok message)
  signer : ∃ signature recovered, record.signature = some signature ∧
    runtime.recoverAdmission (message.typedData runtime.toAuthorizationRuntime (.ofInt 10143))
      signature.text = some recovered ∧
    runtime.toLowerCase recovered = runtime.toLowerCase message.signed.participantWallet

/-- What a preparation compares: the fields of the struct that are those of the payload,
the evidence and the record whenever one comes about. -/
structure Compared (runtime : DirectRuntime) (input : DirectPreparation)
    (payload : GovernedBridgePayload) (role : ParticipantRole)
    (record : ParticipantAdmissionRecord) (message : ParticipantAdmissionMessage) : Prop where
  signedRole : message.role = role
  runId : message.runId = .text input.runId ∧
    payload.message.runId = bridgeRunId runtime.toStoreRuntime input.runId
  fheCaseId : message.fheCaseId = payload.message.fheCaseId.text
  binding : ∃ value digest, input.evidence = .complete value ∧
    textOf value "protectionBindingDigest" = some digest ∧
    ∃ encoded, digestToBytes32 digest = .ok encoded ∧
      message.protectionBindingDigest = encoded.text
  wallet : sameAddress runtime.toRuntime message.participantWallet
    (payload.message.holder role).text = true
  nonce : sameAddress runtime.toRuntime message.authorizationNonce
    record.authorizationNonce.text = true

/-- The digest a struct names, if it names one, is that of a published key. -/
def NamesKey (runtime : AuthorizationRuntime) (message : AdmissionMessage) (key : Text) : Prop :=
  ∀ named, message.signingKeyDigest = some named →
    ∃ digest, participantSigningKeyDigest runtime key = .ok digest ∧ named = digest.text

/-- **An admission authorizes what is settled**: every field the wallet signed is what the
settlement acts on, at a service, with the keys a case published. -/
structure AuthorizesSettlement (runtime : DirectRuntime) (input : DirectPreparation)
    (payload : GovernedBridgePayload) (service : Text) (published : ParticipantRole → Text)
    (role : ParticipantRole) (record : ParticipantAdmissionRecord) (message : AdmissionMessage) :
    Prop extends Compared runtime input payload role record message.signed where
  service : message.signed.verifyingService = .text service
  asset : message.signed.assetIdentityDigest = payload.message.assetIdentityDigest.text
  claim : participantClaimCommitment runtime.toAuthorizationRuntime input.runId role
    message.signed.activeFrom message.signed.activeUntil = .ok record.claimCommitment
  issuedAt : record.issuedAt = .ofInt message.signed.issuedAt
  expiresAt : record.expiresAt = .ofInt message.signed.expiresAt
  key : NamesKey runtime.toAuthorizationRuntime message (published role)

/-- What nothing in a preparation looks at: the struct names the service, the canonical
asset and the published key, and its interval and its window are those the record was
written for. -/
structure AgreesUnread (runtime : AuthorizationRuntime) (canonicalAsset runId service : Text)
    (published : ParticipantRole → Text) (role : ParticipantRole)
    (record : ParticipantAdmissionRecord) (message : AdmissionMessage) : Prop where
  service : message.signed.verifyingService = .text service
  asset : (digestToBytes32 canonicalAsset).toOption.map Hex.text =
    some message.signed.assetIdentityDigest
  claim : participantClaimCommitment runtime runId role message.signed.activeFrom
    message.signed.activeUntil = .ok record.claimCommitment
  issuedAt : record.issuedAt = .ofInt message.signed.issuedAt
  expiresAt : record.expiresAt = .ofInt message.signed.expiresAt
  key : NamesKey runtime message (published role)

/-- What the verification of a direct preparation establishes. -/
theorem verifyDirectParticipants_ok {configuration : CanonicalRecourseConfiguration}
    {holders : VerifiedHolders} {release : VerifiedGovernedRelease}
    (h : verifyDirectParticipants runtime input configuration = .ok (holders, release)) :
    release.runId = input.runId ∧ release.assetIdentity = input.canonicalAsset ∧
      ∃ value protectionBindingDigest, input.evidence = .complete value ∧
        textOf value "protectionBindingDigest" = some protectionBindingDigest ∧
        ∀ role, ∃ fact record message,
          fact.role = role ∧
          sameAddress runtime.toRuntime fact.participantWallet
            (configuration.participants.holder role).text = true ∧
          ProvedAdmission runtime input.admissions input.runId release.fheCaseId
            protectionBindingDigest fact record message := by
  simp only [verifyDirectParticipants, bind_ok_iff, reported_ok_iff, mapError_ok_iff,
    require_ok_iff, pure_ok_iff, Prod.mk.injEq] at h
  obtain ⟨value, hread, verified, hverified, _, ⟨run, hrun, case, hcase, digest, hdigest,
    entries, hentries, hproved⟩, _, hrelease, rfl, rfl⟩ := h
  obtain ⟨digests, binding, haccepted⟩ := assertEvidence_ok_iff.mp hverified
  obtain ⟨hreleaseRun, hreleaseCase, hreleaseAsset⟩ := directParticipantRelease_ok hrelease
  rw [haccepted.evidence] at hrun hcase hdigest hentries hreleaseRun
  rw [haccepted.governedResult] at hreleaseCase hreleaseAsset
  -- one run, one case and one asset in all of them
  have hexpected : value.get "runId" = some (.text input.runId) :=
    checkProvenance_run rfl haccepted.provenance
  rw [← textOf_eq_some_iff] at hexpected
  obtain rfl := Option.some.inj (hexpected.symm.trans hrun)
  have hcaseRead := (readDigests_ok haccepted.digested).fheCaseId
  rw [← textOf_eq_some_iff] at hcaseRead
  obtain rfl := Option.some.inj (hcaseRead.symm.trans hcase)
  have hcaseSigned := (checkBinding_ok haccepted.bound).fheCaseId
  rw [← textOf_eq_some_iff] at hcaseSigned
  have hcaseEq := Option.some.inj (hreleaseCase.symm.trans hcaseSigned)
  have hassetEq := Option.some.inj (hreleaseAsset.symm.trans (checkBinding_asset haccepted.bound))
  refine ⟨Option.some.inj (hreleaseRun.symm.trans hexpected), hassetEq, value, digest, ?_, hdigest,
    ?_⟩
  · simp only [readDirectParticipantBridgeEvidence, bind_ok_iff] at hread
    obtain ⟨_, -, hfile⟩ := hread
    split at hfile
    · cases hfile
    · cases hfile
    · next found hfound =>
        rw [hfound, pure_ok_iff.mp hfile]
  · obtain ⟨entry, hparticipants, hroles, hwalletA, hwalletB, hholderA, hholderB⟩ :=
      checkAdmissions_ok haccepted.admissions
    rw [hparticipants] at hentries
    obtain rfl := Option.some.inj hentries
    have hall := proveParticipants_ok hproved
    rw [hcaseEq]
    intro role
    cases role with
    | participantA =>
        obtain ⟨fact, record, message, hfact, hadmission⟩ :=
          hall (entry .participantA) List.mem_cons_self
        obtain ⟨hrole, hwallet⟩ := admissionFactOf_ok (hroles _) hwalletA hfact
        rw [← hwallet] at hholderA
        exact ⟨fact, record, message, hrole, hholderA, hadmission⟩
    | participantB =>
        obtain ⟨fact, record, message, hfact, hadmission⟩ :=
          hall (entry .participantB) (List.mem_cons_of_mem _ List.mem_cons_self)
        obtain ⟨hrole, hwallet⟩ := admissionFactOf_ok (hroles _) hwalletB hfact
        rw [← hwallet] at hholderB
        exact ⟨fact, record, message, hrole, hholderB, hadmission⟩

/-- What a preparation builds its payload from. -/
theorem prepareDirect_ok (h : prepareDirect runtime reader input = .ok prepared) :
    ∃ configuration holders release state,
      verifyDirectParticipants runtime input configuration = .ok (holders, release) ∧
      buildGovernedBridgePayload runtime.toBridgeRuntime
        (bridgeInput state configuration.participants release input.window) =
          .ok prepared.prepared.payload := by
  simp only [prepareDirect, buildPreparedDirect, bind_ok_iff, reported_ok_iff, mapError_ok_iff,
    pure_ok_iff] at h
  obtain ⟨configuration, -, ⟨holders, release⟩, hverified, checked, ⟨proof, -, hchecked⟩, _, -,
    rfl⟩ := h
  simp only [checkDirectParticipantAdapter, bind_ok_iff] at hchecked
  obtain ⟨state, -, payload, hpayload, hcheck⟩ := hchecked
  simp only [checkPayload, bind_ok_iff, pure_ok_iff] at hcheck
  obtain ⟨_, -, _, -, _, -, _, -, _, -, _, -, rfl⟩ := hcheck
  exact ⟨configuration, holders, release, state, hverified, hpayload⟩

/-- Whatever is prepared, each role has a record whose wallet signed its struct, and what
is compared agrees. -/
theorem prepareDirect_compared (h : prepareDirect runtime reader input = .ok prepared)
    (role : ParticipantRole) :
    digestToBytes32 input.canonicalAsset =
        .ok prepared.prepared.payload.message.assetIdentityDigest ∧
      ∃ record message, Retained runtime input role record message ∧
        Compared runtime input prepared.prepared.payload role record message.signed := by
  obtain ⟨configuration, holders, release, state, hverified, hpayload⟩ := prepareDirect_ok h
  obtain ⟨hrun, hasset, value, binding, hevidence, hbinding, hroles⟩ :=
    verifyDirectParticipants_ok hverified
  obtain ⟨hpaidRun, hpaidCase, hpaidAsset, hpaidA, hpaidB⟩ :=
    buildGovernedBridgePayload_fields hpayload
  rw [← hasset]
  refine ⟨hpaidAsset, ?_⟩
  obtain ⟨fact, record, message, rfl, hholder, hproved⟩ := hroles role
  obtain ⟨signature, recovered, hsignature, hrecovered, hsigner⟩ := hproved.signer
  have hsigned := hproved.signed
  refine ⟨record, message, ⟨hproved.retained, hproved.parsed, signature, recovered, hsignature,
    ?_, hsigner.trans hsigned.wallet.symm⟩, ?_⟩
  · rw [← hsigned.chainId]
    exact hrecovered
  constructor
  case signedRole => exact hsigned.role
  case runId =>
    refine ⟨hsigned.runId, ?_⟩
    rw [← hrun]
    exact hpaidRun
  case fheCaseId =>
    obtain ⟨digest, hdigest, hcase⟩ := hsigned.fheCaseId
    rw [hcase, Except.ok.inj (hdigest.symm.trans hpaidCase)]
  case binding => exact ⟨value, binding, hevidence, hbinding, hsigned.binding⟩
  case wallet =>
    have hpaid : prepared.prepared.payload.message.holder fact.role =
        configuration.participants.holder fact.role := by
      cases fact.role with
      | participantA => exact hpaidA
      | participantB => exact hpaidB
    rw [hpaid, sameAddress_iff]
    exact hsigned.wallet.trans ((sameAddress_iff _ _).mp hholder)
  case nonce =>
    rw [sameAddress_iff]
    exact hsigned.nonce.trans ((sameAddress_iff _ _).mp hproved.nonce).symm

/-- **A re-proved admission.** Of every role of every preparation that comes about, the
struct its wallet signed authorizes what is settled exactly when it agrees in what the
preparation does not read. -/
theorem admission_authorizes_iff (service : Text) (published : ParticipantRole → Text)
    (hprepared : prepareDirect runtime reader input = .ok prepared) (role : ParticipantRole) :
    ∃ record message, Retained runtime input role record message ∧
      (AuthorizesSettlement runtime input prepared.prepared.payload service published role record
          message ↔
        AgreesUnread runtime.toAuthorizationRuntime input.canonicalAsset input.runId service
          published role record message) := by
  obtain ⟨hasset, record, message, hretained, hcompared⟩ := prepareDirect_compared hprepared role
  refine ⟨record, message, hretained, ?_⟩
  constructor
  · intro h
    refine ⟨h.service, ?_, h.claim, h.issuedAt, h.expiresAt, h.key⟩
    rw [hasset, h.asset]
    rfl
  · intro h
    refine ⟨hcompared, h.service, ?_, h.claim, h.issuedAt, h.expiresAt, h.key⟩
    have hsigned := h.asset
    rw [hasset] at hsigned
    exact (Option.some.inj hsigned).symm

end

/-! ## Two admissions of one run

The wallet of A signed what is settled.  That of B signed the second version of the type,
for another service, asset, interval and key, at another time; the rest of its record is
in order. -/

namespace Sample

def walletA : Hex := hex "0x76f1874349316f6e97626967A5A929CB4727DE53" (by decide)

def walletB : Hex := hex "0x2ef3B403095010e14d1F39fFeC22cfd69cCEEE41" (by decide)

def authorizationDigestA : Hex :=
  hex "0x9b7310aaa07aace05f38dff221cbeed561a9bc567ea38d4e213742295083608b" (by decide)

def authorizationDigestB : Hex :=
  hex "0xb884d8ccbfc38b299e21ffc7cebb2001413ac18ed82447ae5ec1b86371d7b761" (by decide)

def claimCommitmentA : Hex :=
  hex "0x32c833fa0c64f7beb51a506294e25c542a35e93904d69272153a04932ac17142" (by decide)

/-- The commitment of an interval that ends at 2000. -/
def claimCommitmentB : Hex :=
  hex "0x87c70f1b00ae296bba56152dc66cf812893fdb59ceed707e75a7f655f04808f1" (by decide)

def signatureA : Hex :=
  hex ("0x0032ddaf1425fc0cde4c34268a109cbc53cb47ab12cfa08fb713b7c983dc79ee" ++
    "6578ed0c6477157fb38143356ebb8c2916855e332d42a8c6a2b8033c2c6ef98c1c") (by decide)

def signatureB : Hex :=
  hex ("0xbfe0fe55ce2d9a67b3ca8bceb88bcdcc517bedd8c557e301ba0b7b1359d0bdf2" ++
    "44f9cf8218b6849189e86c33c8a57668573483696725845f26853bcaefa049f61c") (by decide)

def directRunId : Text := lit "aaaaaaaa-bbbb-4ccc-8ddd-eeeeeeeeeeee"

/-- A struct of the first version. -/
def authorizationMembers (service asset role : String) (wallet : Hex) (nonce : String)
    (activeUntil issuedAt : ℤ) : List (Text × Json) :=
  [(lit "verifyingService", .text (lit service)),
    (lit "runId", .text directRunId),
    (lit "fheCaseId", .text (bytes32Text "c1")),
    (lit "protectionBindingDigest", .text (bytes32Text "c3")),
    (lit "assetIdentityDigest", .text (bytes32Text asset)),
    (lit "role", .text (lit role)),
    (lit "activeFrom", .number (.ofInt 1000)),
    (lit "activeUntil", .number (.ofInt activeUntil)),
    (lit "participantWallet", .text wallet.text),
    (lit "authorizationNonce", .text (bytes32Text nonce)),
    (lit "issuedAt", .number (.ofInt issuedAt)),
    (lit "expiresAt", .number (.ofInt (issuedAt + 600)))]

def authorizationA : Json :=
  .object (authorizationMembers "mordant.example" "a1" "PARTICIPANT_A" walletA "e3" 2000 1784150000)

def authorizationB : Json :=
  .object (authorizationMembers "other.example" "a9" "PARTICIPANT_B" walletB "e6" 3000 1784140000 ++
    [(lit "participantSigningKeyDigest", .text (bytes32Text "f1"))])

def admissionRecordA : ParticipantAdmissionRecord where
  schemaVersion := participantAdmissionRecordSchema
  runId := directRunId
  authorization := some authorizationA
  signature := some signatureA
  role := .participantA
  participantWallet := walletA
  authorizationDigest := authorizationDigestA
  claimCommitment := claimCommitmentA
  authorizationNonce := hexOf "e3"
  chainId := .ofInt 10143
  issuedAt := .ofInt 1784150000
  expiresAt := .ofInt 1784150600
  participantSigningKeyDigest := none
  eligibilityBlock := .ofInt 1
  admittedAtUnix := .ofInt 1784150100

def admissionRecordB : ParticipantAdmissionRecord where
  schemaVersion := participantAdmissionRecordSchema
  runId := directRunId
  authorization := some authorizationB
  signature := some signatureB
  role := .participantB
  participantWallet := walletB
  authorizationDigest := authorizationDigestB
  claimCommitment := claimCommitmentB
  authorizationNonce := hexOf "e6"
  chainId := .ofInt 10143
  issuedAt := .ofInt 1784150200
  expiresAt := .ofInt 1784150800
  participantSigningKeyDigest := none
  eligibilityBlock := .ofInt 1
  admittedAtUnix := .ofInt 1784150300

def directAdmissions : AdmissionFiles
  | .participantA => .complete admissionRecordA
  | .participantB => .complete admissionRecordB

def admissionEntry (record : ParticipantAdmissionRecord) : Json :=
  .object
    [(lit "role", .text (lit record.role.text)),
      (lit "participantWallet", .text record.participantWallet.text),
      (lit "authorizationDigest", .text record.authorizationDigest.text),
      (lit "claimCommitment", .text record.claimCommitment.text),
      (lit "authorizationNonce", .text record.authorizationNonce.text),
      (lit "chainId", .number record.chainId),
      (lit "eligibilityBlock", .number record.eligibilityBlock)]

def directStamp : Text := lit "80d0a828a4adce73ed1f73003a1da084c61cb9bc8535a1fa65b340f057b90aab"

def directEvidence : Json :=
  (honestEvidence.set "participants"
    (.array [admissionEntry admissionRecordA, admissionEntry admissionRecordB])).set
      "evidenceDigest" (.text (lit "sha256:" ++ directStamp))

/-- What the libraries answer for the two admissions and their run. -/
def directRuntime : DirectRuntime :=
  { bridgeRuntime, evidenceRuntime with
    lower_hex := bridge_lower_hex
    sha256 := fun text =>
      if lit "MordantDirectParticipantBridgeEvidence/v1" <+: text then directStamp
      else if lit "MordantParticipantClaim/v1" <+: text then
        if includes (lit "PARTICIPANT_A") text then claimCommitmentA.text.drop 2
        else lit "9372e17e48268683f6980459b0eb2258cc617a229e30ea7a8196e626d24bdd15"
      else if lit "MordantBridgeIntent/v2" <+: text then
        lit "6d9a8278dddf46c34096e081b809335d27a94b4266397f0fa98bd005fe8c19a7"
      else lit "9574290280052915768eae4d824dfeb8868e7579a1c2635c77822620c5a53503"
    sha256Bytes := fun bytes =>
      if bytes = rawKey then
        lit "fe812c12f3ab4ce6ac5db69ac352f906cb1b11ef43fb33e252ef7ff552263889"
      else authorityId.drop 7
    keccakText := fun text =>
      if text = directRunId then
        hex "0x7996b7662646928e3c08b0bf7394e2db5997f70e5011cc046868a8ae00a40c64" (by decide)
      else if text = lit "governed-decryptor-v1" then adapterState.releaseMode
      else if text = participantAdmissionSchema then
        hex "0x140e0c549c6e2bee1578dce11133296086e105ae9861f1935a89a6df0710cf15" (by decide)
      else if text = participantAdmissionV2Schema then
        hex "0x8908b747a05e69594a7185c1a1c26bc5d939a09a7a7440656794096d46bc0313" (by decide)
      else otherHash
    keccakHex := fun value =>
      if value.text = lit "0x6001" then adapterState.codeHash
      else hex "0x55310c9c81815809eec3fc50e925167a601a2a4543835fcad2bc9801fb232d98" (by decide)
    hashTypedData := fun _ => some
      (hex "0x59ab1235b5772b99d57fe5b192e255483ac6f802aaa1e8fdf279d7c83c9284ea" (by decide))
    numberText := fun value => stringifyInt value.num
    getAddress := some
    hashAdmission := fun typedData =>
      if typedData.message.signed.role = .participantA then some authorizationDigestA
      else some authorizationDigestB
    recoverAdmission := fun _ signature =>
      if signature = signatureA.text then some walletA.text else some walletB.text }

def directAuthority : Hex :=
  hex "0x604748c209fdfc64d40ea91e9c336e5b23b59cc1756a4f205cfd898414b460e4" (by decide)

def directAdapter : AdapterState :=
  { adapterState with expectedGovernedReleaseAuthorityId := directAuthority }

def directReader : AdapterReader :=
  { adapterReader with
    readAdapterState := some directAdapter
    hashRelease := directRuntime.hashTypedData }

def directConfiguration : CanonicalRecourseConfiguration :=
  { artifacts.configuration with
    participants := { committedParticipants with holderA := walletA, holderB := walletB } }

def directPreparation : DirectPreparation where
  configured := directAdapter.address
  loadConfiguration := .ok directConfiguration
  runId := directRunId
  sourceCommit := evidenceExpectations.sourceCommit
  canonicalAsset := digestText "a1"
  evidence := .complete directEvidence
  admissions := directAdmissions
  loadProof := .ok { deployment with expectedGovernedReleaseAuthorityId := directAuthority }
  window := bridgeWindow
  settlement := none

theorem direct_prepared : ∃ prepared,
    prepareDirect directRuntime directReader directPreparation = .ok prepared := by
  have hleak : checkLeak directRuntime.toAuthorizationRuntime.toEvidenceRuntime directEvidence =
      .ok () := checkLeak_of_namesNothingForbidden (by decide +kernel)
  have hread : readDirectParticipantBridgeEvidence directPreparation.evidence
      directPreparation.runId = .ok directEvidence := by rfl
  rw [← toBool_eq_true_iff, prepareDirect]
  dsimp only at hleak
  -- The search for forbidden names is the slow part, and is over before the rest is computed.
  conv in verifyDirectParticipants _ _ =>
    ext configuration
    rw [verifyDirectParticipants, hread, ok_bind]
    simp only [assertDirectParticipantBridgeEvidence, hleak]
  decide +kernel

def directRecord : ParticipantRole → ParticipantAdmissionRecord
  | .participantA => admissionRecordA
  | .participantB => admissionRecordB

theorem readAdmission_direct (role : ParticipantRole) :
    readAdmission directAdmissions directRunId role = .ok (some (directRecord role)) := by
  cases role with
  | participantA => exact bind_ok_iff.mpr ⟨(), by decide +kernel, rfl⟩
  | participantB => exact bind_ok_iff.mpr ⟨(), by decide +kernel, rfl⟩

/-- What the ledger has of a role passes a test that its struct passes. -/
theorem retained_direct {role : ParticipantRole} {record : ParticipantAdmissionRecord}
    {message : AdmissionMessage}
    (h : Retained directRuntime directPreparation role record message)
    (test : AdmissionMessage → Bool)
    (htest : ∀ authorization, (directRecord role).authorization = some authorization →
      (parseAdmission directRuntime.toAuthorizationRuntime authorization).toOption.any test =
        true) :
    record = directRecord role ∧ test message = true := by
  obtain rfl := Option.some.inj (Except.ok.inj (h.retained.symm.trans (readAdmission_direct role)))
  obtain ⟨authorization, hauthorization, hparsed⟩ := Option.map_eq_some_iff.mp h.parsed
  obtain ⟨message', hmessage', hpasses⟩ := any_ok_iff.mp (htest authorization hauthorization)
  obtain rfl := Except.ok.inj (hparsed.symm.trans hmessage')
  exact ⟨rfl, hpasses⟩

def service : Text := lit "mordant.example"

/-- Both roles publish the one key there is here. -/
def publishedKey (_ : ParticipantRole) : Text := signingKey

end Sample

/-- The struct of B names another service, asset and key than the settlement's, and what it
says of the claim and the window is not what the record says; a payload is prepared
all the same. -/
theorem foreign_admission_settled :
    ∃ prepared, prepareDirect Sample.directRuntime Sample.directReader Sample.directPreparation =
        .ok prepared ∧
      ∃ record message,
        Retained Sample.directRuntime Sample.directPreparation .participantB record message ∧
        message.signed.verifyingService ≠ .text Sample.service ∧
        message.signed.assetIdentityDigest ≠
          prepared.prepared.payload.message.assetIdentityDigest.text ∧
        participantClaimCommitment Sample.directRuntime.toAuthorizationRuntime
          Sample.directRunId .participantB message.signed.activeFrom message.signed.activeUntil ≠
            .ok record.claimCommitment ∧
        record.issuedAt ≠ .ofInt message.signed.issuedAt ∧
        ¬ NamesKey Sample.directRuntime.toAuthorizationRuntime message
          (Sample.publishedKey .participantB) ∧
        ¬ AuthorizesSettlement Sample.directRuntime Sample.directPreparation
          prepared.prepared.payload Sample.service Sample.publishedKey .participantB record
            message := by
  obtain ⟨prepared, hprepared⟩ := Sample.direct_prepared
  obtain ⟨hasset, record, message, hretained, -⟩ := prepareDirect_compared hprepared .participantB
  obtain ⟨rfl, htest⟩ := Sample.retained_direct hretained
    (fun message => message.signed.verifyingService.asText ≠ some Sample.service &&
      message.signed.assetIdentityDigest = Sample.bytes32Text "a9" &&
      message.signed.activeFrom = 1000 && message.signed.activeUntil = 3000 &&
      message.signed.issuedAt = 1784140000 &&
      message.signingKeyDigest = some (Sample.bytes32Text "f1"))
    (by rintro _ ⟨⟩; decide +kernel)
  simp only [Bool.and_eq_true, decide_eq_true_eq] at htest
  obtain ⟨⟨⟨⟨⟨hservice, hsigned⟩, hfrom⟩, huntil⟩, hissued⟩, hkey⟩ := htest
  have hforeign : message.signed.assetIdentityDigest ≠
      prepared.prepared.payload.message.assetIdentityDigest.text := by
    have hcanonical : (digestToBytes32 Sample.directPreparation.canonicalAsset).toOption.map
        Hex.text = some (Sample.bytes32Text "a1") := by decide +kernel
    rw [hasset] at hcanonical
    rw [hsigned, Option.some.inj hcanonical]
    decide
  refine ⟨prepared, hprepared, _, message, hretained, ?_, hforeign, ?_, ?_, ?_,
    fun h => hforeign h.asset⟩
  · intro h
    exact hservice (congrArg Json.asText h)
  · rw [hfrom, huntil]
    intro h
    have hcommitment := congrArg (fun result => result.toOption.map Hex.text) h
    exact absurd hcommitment (by decide +kernel)
  · rw [hissued]
    decide
  · intro h
    obtain ⟨digest, hdigest, hnamed⟩ := h _ hkey
    have hpublished := congrArg (fun result => result.toOption.map Hex.text) hdigest
    change _ = some digest.text at hpublished
    rw [← hnamed] at hpublished
    exact absurd hpublished (by decide +kernel)

/-- The struct of A is what is settled. -/
theorem admission_authorizes_sample :
    ∃ prepared, prepareDirect Sample.directRuntime Sample.directReader Sample.directPreparation =
        .ok prepared ∧
      ∃ record message,
        Retained Sample.directRuntime Sample.directPreparation .participantA record message ∧
        AuthorizesSettlement Sample.directRuntime Sample.directPreparation
          prepared.prepared.payload Sample.service Sample.publishedKey .participantA record
            message := by
  obtain ⟨prepared, hprepared⟩ := Sample.direct_prepared
  obtain ⟨record, message, hretained, hiff⟩ :=
    admission_authorizes_iff Sample.service Sample.publishedKey hprepared .participantA
  refine ⟨prepared, hprepared, record, message, hretained, hiff.mpr ?_⟩
  obtain ⟨rfl, htest⟩ := Sample.retained_direct hretained
    (fun message => message.signed.verifyingService.asText = some Sample.service &&
      message.signed.assetIdentityDigest = Sample.bytes32Text "a1" &&
      message.signed.activeFrom = 1000 && message.signed.activeUntil = 2000 &&
      message.signed.issuedAt = 1784150000 && message.signed.expiresAt = 1784150600 &&
      message.signingKeyDigest = none)
    (by rintro _ ⟨⟩; decide +kernel)
  simp only [Bool.and_eq_true, decide_eq_true_eq] at htest
  obtain ⟨⟨⟨⟨⟨⟨hservice, hasset⟩, hfrom⟩, huntil⟩, hissued⟩, hexpires⟩, hkey⟩ := htest
  constructor
  case service =>
    cases hjson : message.signed.verifyingService with
    | text value =>
        rw [hjson] at hservice
        exact congrArg Json.text (Option.some.inj hservice)
    | null | bool _ | number _ | array _ | object _ =>
        rw [hjson] at hservice
        exact nomatch hservice
  case asset =>
    rw [hasset]
    decide +kernel
  case claim =>
    rw [hfrom, huntil]
    have hcommitment : (participantClaimCommitment Sample.directRuntime.toAuthorizationRuntime
        Sample.directPreparation.runId .participantA 1000 2000).toOption =
          some Sample.claimCommitmentA := by decide +kernel
    exact toOption_eq_some_iff.mp hcommitment
  case issuedAt =>
    rw [hissued]
    rfl
  case expiresAt =>
    rw [hexpires]
    rfl
  case key =>
    intro named hnamed
    exact absurd (hkey.symm.trans hnamed) (Option.some_ne_none named).symm

end Mordant.Protection
