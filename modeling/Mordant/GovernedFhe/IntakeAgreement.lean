/-
# One artifact for each role

Whatever imports are asked for, in whatever order they go on and wherever they are cut off:
a role has one admission, what is published of it is what was admitted, its manifest comes
last, and the two roles never share a nonce.

The argument is a charter for the two stores.  It says what justifies each object: an
admission follows a claim to its nonce, what is published follows an admission that agrees
with it, and each object of a submission follows those before it.
-/

import Mordant.GovernedFhe.Intake
import Mordant.GovernedFhe.Release

namespace Mordant.GovernedFhe

open Evm Foundation
open Coalition (Digest)

/-! ## Submissions -/

/-- What a call was let through with. -/
structure Submission where
  request : ImportRequest
  verification : ParticipantOriginatedArtifactVerification
  digest : Digest
  staging : Staging

namespace Submission

variable (library : Library) (parseTime : String → Option ℤ) (s : Submission)

abbrev role : Role := s.request.expected.role

def claim : ParticipantOriginatedNonceClaim := nonceClaimOf s.digest s.verification

def admission : ParticipantOriginatedImportAdmission :=
  admissionOf s.digest s.verification s.request.now

/-- A submission was verified, and is staged. -/
structure Verified : Prop where
  verified : ∃ seen, verifyStagedArtifact library parseTime s.request seen = .ok s.verification
  digested : s.verification.digest library s.role = .ok s.digest
  staged : ∃ seen, loadStaging library parseTime s.request s.verification seen = .ok s.staging

end Submission

/-- How an object that holds this is referred to. -/
def refOf (library : Library) (object : PublicObject) (data : Bytes) : ObjectRef :=
  ⟨object.name, library.sha256 data, data.length⟩

/-- What is there, and what it holds. -/
abbrev There : Type := ImportObject → ImportValue → Prop

/-- The objects that an import creates. -/
def ImportObject.imported : ImportObject → Bool
  | .inl (.submission _) | .inl (.submissionManifest _) | .inl (.enrollment _) | .inr _ => true
  | .inl _ => false

section

variable (library : Library) (parseTime : String → Option ℤ) (there : There) (s : Submission)

/-- A submission agrees with what was admitted for its role. -/
structure Submission.Admitted : Prop where
  verified : s.Verified library parseTime
  admitted : ∃ admission, there (.inr (.admitted s.role)) (.admission admission) ∧
    { admission with admittedAtUnix := s.request.now } = s.admission

/-- An object is published to which this refers. -/
def Published (object : PublicObject) (ref : ObjectRef) : Prop :=
  ∃ data, there (.inl object) (.bytes data) ∧ refOf library object data = ref

/-- The enrollment of a role is published. -/
def Enrolled (role : Role) : Prop := ∃ data, there (.inl (.enrollment role)) (.bytes data)

/-- What justifies an object, by what is there before it. -/
def Imported (value : ImportValue) : ImportObject → Prop
  | .inr (.nonceClaim nonce) => ∃ s : Submission, s.Verified library parseTime ∧
      s.verification.submissionNonce = nonce ∧ value = .claim s.claim
  | .inr (.admitted role) => ∃ s : Submission, s.Verified library parseTime ∧ s.role = role ∧
      there (.inr (.nonceClaim s.verification.submissionNonce)) (.claim s.claim) ∧
      value = .admission s.admission
  | .inl (.submission role) => ∃ (s : Submission) (data : Bytes),
      s.Admitted library parseTime there ∧ s.role = role ∧ value = .bytes data ∧
      refOf library (.submission role) data = s.staging.ciphertextRef
  | .inl (.enrollment role) => ∃ (s : Submission) (enrollment : ParticipantEnrollmentV5),
      s.Admitted library parseTime there ∧ s.role = role ∧
      Published library there (.submission role) s.staging.ciphertextRef ∧
      deriveEnrollment library s.request s.staging = .ok enrollment ∧
      value = .bytes (marshalCanonical library .participantEnrollment enrollment)
  | .inl (.submissionManifest role) => ∃ (s : Submission) (data : Bytes),
      s.Admitted library parseTime there ∧ s.role = role ∧
      Published library there (.submission role) s.staging.ciphertextRef ∧
      Enrolled there role ∧ s.request.quarantine.manifest = some data ∧ value = .bytes data
  | .inr (.completed role) => ∃ (s : Submission)
      (completion : ParticipantOriginatedImportCompletion),
      s.Admitted library parseTime there ∧ s.role = role ∧
      Published library there (.submission role) completion.ciphertextObject ∧
      Enrolled there role ∧
      Published library there (.submissionManifest role) completion.artifactObject ∧
      completion.verificationDigest = s.digest ∧ value = .completion completion
  | .inl _ => False

variable {library parseTime there s} {later : There}

theorem Submission.Admitted.mono (h : s.Admitted library parseTime there)
    (hsub : ∀ object value, there object value → later object value) :
    s.Admitted library parseTime later :=
  ⟨h.verified, h.admitted.imp fun _ ⟨hthere, heq⟩ => ⟨hsub _ _ hthere, heq⟩⟩

theorem Published.mono {object : PublicObject} {ref : ObjectRef}
    (h : Published library there object ref)
    (hsub : ∀ object value, there object value → later object value) :
    Published library later object ref :=
  h.imp fun _ ⟨hthere, heq⟩ => ⟨hsub _ _ hthere, heq⟩

theorem Enrolled.mono {role : Role} (h : Enrolled there role)
    (hsub : ∀ object value, there object value → later object value) : Enrolled later role :=
  h.imp fun _ hthere => hsub _ _ hthere

theorem Imported.mono {object : ImportObject} {value : ImportValue}
    (h : Imported library parseTime there value object)
    (hsub : ∀ object value, there object value → later object value) :
    Imported library parseTime later value object := by
  cases object with
  | inl object =>
      cases object with
      | submission role =>
          obtain ⟨s, data, hadmitted, hrest⟩ := h
          exact ⟨s, data, hadmitted.mono hsub, hrest⟩
      | enrollment role =>
          obtain ⟨s, enrollment, hadmitted, hrole, hciphertext, hrest⟩ := h
          exact ⟨s, enrollment, hadmitted.mono hsub, hrole, hciphertext.mono hsub, hrest⟩
      | submissionManifest role =>
          obtain ⟨s, data, hadmitted, hrole, hciphertext, henrolled, hrest⟩ := h
          exact ⟨s, data, hadmitted.mono hsub, hrole, hciphertext.mono hsub,
            henrolled.mono hsub, hrest⟩
      | _ => exact h
  | inr object =>
      cases object with
      | nonceClaim nonce => exact h
      | admitted role =>
          obtain ⟨s, hverified, hrole, hclaim, hvalue⟩ := h
          exact ⟨s, hverified, hrole, hsub _ _ hclaim, hvalue⟩
      | completed role =>
          obtain ⟨s, completion, hadmitted, hrole, hciphertext, henrolled, hmanifest, hrest⟩ := h
          exact ⟨s, completion, hadmitted.mono hsub, hrole, hciphertext.mono hsub,
            henrolled.mono hsub, hmanifest.mono hsub, hrest⟩

end

/-! ## The charter -/

/-- A case for which nothing was imported. -/
structure UnimportedCase where
  objects : Objects ImportObject ImportValue
  unimported : ∀ object, ImportObject.imported object = true → objects object = none

abbrev ImportDeed (ι : Type) : Type := Deed ι ImportObject ImportValue Empty

/-- What was created. -/
def Created {ι : Type} (history : List (ImportDeed ι)) : There :=
  fun object value => ∃ i, .created i object value ∈ history

theorem Created.mono {ι : Type} {history history' : List (ImportDeed ι)}
    (hsub : history ⊆ history') (object : ImportObject) (value : ImportValue)
    (h : Created history object value) : Created history' object value :=
  h.imp fun _ hmem => hsub hmem

/-- What may be done to the two stores. -/
def importCharter (library : Library) (parseTime : String → Option ℤ) (start : UnimportedCase)
    (ι : Type) : Charter ι ImportObject ImportValue Empty Empty where
  initial := start.objects
  kind := id
  backing := nofun
  Justified history deed := match deed with
    | .created _ object value => Imported library parseTime (Created history) value object
    | .noted _ note => nomatch note
  mono {history history' deed} hsub h := by
    cases deed with
    | created i object value => exact Imported.mono h (Created.mono hsub)
    | noted i note => exact nomatch note
  backed {_ _ note} _ := nomatch note

/-! ## What the checks establish -/

section

variable {library : Library} {parseTime : String → Option ℤ} {seen : PublicObject → Option Bytes}
  {verification : ParticipantOriginatedArtifactVerification}

theorem streamedObjectRef_ok {object : PublicObject} {data : Option Bytes} {maximum : ℕ}
    {ref : ObjectRef} (h : streamedObjectRef library object data maximum = .ok ref) :
    ∃ bytes, data = some bytes ∧ refOf library object bytes = ref := by
  simp only [streamedObjectRef, bind_ok_iff, pure_ok_iff, Prod.exists] at h
  obtain ⟨bytes, found, hread, rfl⟩ := h
  obtain ⟨hdata, rfl⟩ := readNamed_ok hread
  exact ⟨bytes, hdata, rfl⟩

/-- What is staged of a submission. -/
structure Submission.Staged (library : Library) (s : Submission) (data : Bytes) : Prop where
  manifest : s.request.quarantine.manifest = some data
  ref : refOf library (.submissionManifest s.role) data = s.verification.artifactObject
  decoded : decodeStrict library .participantArtifact data = .ok s.staging.artifact
  digest : documentDigest library data = s.verification.artifactDigest
  artifactRef : s.staging.artifactRef = s.verification.artifactObject
  artifactDigest : s.staging.artifactDigest = s.verification.artifactDigest
  ciphertextRef : s.staging.ciphertextRef = s.verification.ciphertextObject
  ciphertextObject : s.staging.artifact.ciphertextObject = s.verification.ciphertextObject
  nonce : s.staging.artifact.submissionNonce = s.verification.submissionNonce

theorem loadParticipantArtifactMetadata_ok {manifest : FHECaseManifest} {role : Role} {now : ℤ}
    {artifact : EncryptedParticipantArtifact} {digest : Digest}
    (h : loadParticipantArtifactMetadata library seen manifest role now = .ok (artifact, digest)) :
    ∃ data, seen (.submissionManifest role) = some data ∧
      decodeStrict library .participantArtifact data = .ok artifact ∧
      documentDigest library data = digest := by
  simp only [loadParticipantArtifactMetadata, readJSON, bind_ok_iff, pure_ok_iff, Prod.exists,
    Prod.mk.injEq] at h
  obtain ⟨_, _, ⟨data, ref, hread, _, hdecoded, rfl, rfl⟩, _, -, _, -, _, -, rfl, rfl⟩ := h
  exact ⟨data, (readNamed_ok hread).1, hdecoded, rfl⟩

theorem loadStaging_ok {s : Submission}
    (h : loadStaging library parseTime s.request s.verification seen = .ok s.staging) :
    ∃ data, s.Staged library data := by
  simp only [loadStaging, bind_ok_iff, exists_const, revertIf_ok_iff, mapError_ok_iff, pure_ok_iff,
    Prod.exists, not_or, not_not] at h
  obtain ⟨_, -, _, -, -, -, artifact, digest, hmetadata, artifactRef, hartifact, ciphertextRef, -,
    ⟨hdigest, hartifactRef, hciphertextRef, hobject, hnonce⟩, hstaging⟩ := h
  obtain ⟨data, hseen, hdecoded, rfl⟩ := loadParticipantArtifactMetadata_ok hmetadata
  obtain ⟨bytes, hbytes, rfl⟩ := streamedObjectRef_ok hartifact
  obtain rfl : data = bytes := Option.some.inj (hseen.symm.trans hbytes)
  have hmanifest : s.request.quarantine.manifest = some data := by
    simpa only [Quarantine.objects, if_pos] using hseen
  refine ⟨data, hmanifest, hartifactRef, ?_, hdigest, ?_, ?_, ?_, ?_, ?_⟩ <;> rw [← hstaging]
  · exact hdecoded
  · exact hartifactRef
  · exact hdigest
  · exact hciphertextRef
  · exact hobject.trans hciphertextRef
  · exact hnonce

theorem verifyStagedArtifact_role {request : ImportRequest}
    (h : verifyStagedArtifact library parseTime request seen = .ok verification) :
    verification.role = request.expected.role.text := by
  simp only [verifyStagedArtifact, bind_ok_iff, exists_const, revertIf_ok_iff, pure_ok_iff,
    Prod.exists] at h
  obtain ⟨_, -, _, -, _, -, -, -, _, _, -, -, _, _, -, -, _, -, _, -, -, rfl⟩ := h
  rfl

theorem digest_ok {role : Role} {digest : Digest}
    (h : verification.digest library role = .ok digest) :
    verification.ciphertextObject.digest = verification.ciphertextDigest := by
  simp only [ParticipantOriginatedArtifactVerification.digest,
    ParticipantOriginatedArtifactVerification.validate, bind_ok_iff, exists_const,
    revertIf_ok_iff, not_or, not_not] at h
  obtain ⟨⟨-, -, -, -, -, -, -, -, -, -, -, -, -, -, -, -, -, -, -, hdigest, -⟩, -⟩ := h
  exact hdigest

/-- The enrollment that is derived names the artifact and its ciphertext. -/
theorem deriveEnrollment_ok {request : ImportRequest} {staging : Staging}
    {enrollment : ParticipantEnrollmentV5}
    (h : deriveEnrollment library request staging = .ok enrollment) :
    enrollment.artifactDigest = staging.artifactDigest ∧
      enrollment.ciphertextDigest = staging.artifact.ciphertextObject.digest := by
  simp only [deriveEnrollment, assembleEnrollmentRecord, bind_ok_iff, exists_const,
    revertIf_ok_iff, pure_ok_iff] at h
  obtain ⟨_, -, _, -, _, -, _, -, -, _, -, rfl⟩ := h
  exact ⟨rfl, rfl⟩

end

/-! ## What a call knows -/

section

variable {ι : Type} [DecidableEq ι] {library : Library} {parseTime : String → Option ℤ}
  {start : UnimportedCase} {i : ι} {w : Archive ι ImportObject ImportValue Empty} {α β : Type}
  {R : β → Archive ι ImportObject ImportValue Empty → Prop}

/-- A task of a party keeps to the charter of the imports. -/
abbrev KeepsImport (library : Library) (parseTime : String → Option ℤ) (start : UnimportedCase)
    (i : ι) (R : β → Archive ι ImportObject ImportValue Empty → Prop) (task : ImportTask β)
    (w : Archive ι ImportObject ImportValue Empty) : Prop :=
  Upholds (importCharter library parseTime start ι).discipline i (onOk R) task w

/-- Where a call stands: in a sound archive. -/
def Stands (library : Library) (parseTime : String → Option ℤ) (start : UnimportedCase) (i : ι)
    (w : Archive ι ImportObject ImportValue Empty) : Prop :=
  ∃ mine, (importCharter library parseTime start ι).At i mine w

/-- What a part of a call establishes, later on. -/
def Then (library : Library) (parseTime : String → Option ℤ) (start : UnimportedCase) (i : ι)
    (w : Archive ι ImportObject ImportValue Empty) (P : β → There → Prop) (b : β)
    (t : Archive ι ImportObject ImportValue Empty) : Prop :=
  w.Later t ∧ Stands library parseTime start i t ∧ P b (Created t.history)

/-- In sequence, what the first part establishes is there for the second. -/
theorem keepsImport_bind {P : α → There → Prop} {task : ImportTask α} {f : α → ImportTask β}
    (h : KeepsImport library parseTime start i (Then library parseTime start i w P) task w)
    (hf : ∀ a t, w.Later t → Stands library parseTime start i t → P a (Created t.history) →
      KeepsImport library parseTime start i R (f a) t) :
    KeepsImport library parseTime start i R (task >>= f) w :=
  h.andThen fun a t ⟨hlater, hstands, hP⟩ => hf a t hlater hstands hP

omit [DecidableEq ι] in
theorem Created.later {t : Archive ι ImportObject ImportValue Empty} (hlater : w.Later t)
    (object : ImportObject) (value : ImportValue) (h : Created w.history object value) :
    Created t.history object value :=
  Created.mono hlater.subset object value h

/-- What is seen of an import was created. -/
theorem created_of_seen {mine : List (ImportDeed ι)} {seen : Objects ImportObject ImportValue}
    {object : ImportObject} {value : ImportValue}
    (hat : (importCharter library parseTime start ι).At i mine w)
    (hseen : seen.Extends w.objects) (himported : object.imported = true)
    (h : seen object = some value) : Created w.history object value :=
  hat.sound.created (hseen object value h) (start.unimported object himported)

theorem caseOf_eq_some {seen : Objects ImportObject ImportValue} {object : PublicObject}
    {data : Bytes} (h : caseOf seen object = some data) :
    seen (.inl object) = some (.bytes data) := by
  rw [caseOf] at h
  split at h
  · next found hfound =>
      obtain rfl := Option.some.inj h
      exact hfound
  · exact nomatch h

variable {s : Submission}

/-- The nonce of a submission is claimed. -/
theorem keepsImport_claim (hs : s.Verified library parseTime)
    (hstands : Stands library parseTime start i w) :
    KeepsImport library parseTime start i
      (Then library parseTime start i w fun _ there =>
        there (.inr (.nonceClaim s.verification.submissionNonce)) (.claim s.claim))
      (claimParticipantOriginatedNonce s.digest s.verification) w := by
  obtain ⟨mine, hat⟩ := hstands
  apply upholds_create_bind hat
  · intro t _ _
    exact ⟨s, hs, rfl, rfl⟩
  · intro t hlater hat
    refine upholds_pure hat fun u hlater' hat => ?_
    exact ⟨hlater.trans hlater', ⟨_, hat⟩, i, hat.mem List.mem_cons_self⟩
  · intro t hlater hat
    apply upholds_look_bind hat
    intro u seen hlater' hat hseen
    refine upholds_lift_bind fun existing hexisting => ?_
    refine upholds_throwIf_bind fun hsame => ?_
    obtain rfl := not_not.mp hsame
    have hcreated := created_of_seen hat hseen rfl (require_ok_iff.mp hexisting)
    refine upholds_pure hat fun v hlater'' hat => ?_
    exact ⟨(hlater.trans hlater').trans hlater'', ⟨_, hat⟩, Created.later hlater'' _ _ hcreated⟩

/-- The role is admitted as the submission. -/
theorem keepsImport_admitRole (hs : s.Verified library parseTime)
    (hstands : Stands library parseTime start i w)
    (hclaim : Created w.history (.inr (.nonceClaim s.verification.submissionNonce))
      (.claim s.claim)) :
    KeepsImport library parseTime start i
      (Then library parseTime start i w fun _ there => s.Admitted library parseTime there)
      (admitRole s.role s.admission) w := by
  obtain ⟨mine, hat⟩ := hstands
  apply upholds_look_bind hat
  intro t seen hlater hat hseen
  split
  · next existing hexisting =>
      refine upholds_throwIf_bind fun hsame => ?_
      have hcreated := created_of_seen hat hseen rfl hexisting
      refine upholds_pure hat fun u hlater' hat => ?_
      exact ⟨hlater.trans hlater', ⟨_, hat⟩, hs, existing, Created.later hlater' _ _ hcreated,
        not_not.mp hsame⟩
  · exact upholds_lift hat fun _ _ _ _ h => nomatch h
  · apply upholds_create_bind hat
    · intro u hlater' _
      exact ⟨s, hs, rfl, Created.later (hlater.trans hlater') _ _ hclaim, rfl⟩
    · intro u hlater' hat
      refine upholds_throwIf_bind fun _ => ?_
      refine upholds_pure hat fun v hlater'' hat => ?_
      exact ⟨(hlater.trans hlater').trans hlater'', ⟨_, hat⟩, hs, s.admission,
        ⟨i, hat.mem List.mem_cons_self⟩, rfl⟩
    · intro u _ _
      exact upholds_throwIf_bind fun hfalse => (hfalse rfl).elim

/-- A check establishes nothing by itself. -/
theorem keepsImport_checkOtherNonce {role : Role} {nonce : Digest}
    (hstands : Stands library parseTime start i w) :
    KeepsImport library parseTime start i (Then library parseTime start i w fun _ _ => True)
      (checkOtherNonce library role nonce) w := by
  obtain ⟨mine, hat⟩ := hstands
  apply upholds_look_bind hat
  intro t seen hlater hat _
  split
  · refine upholds_lift_bind fun _ _ => upholds_lift hat fun u _ hlater' hat _ => ?_
    exact ⟨hlater.trans hlater', ⟨_, hat⟩, trivial⟩
  · refine upholds_pure hat fun u hlater' hat => ?_
    exact ⟨hlater.trans hlater', ⟨_, hat⟩, trivial⟩

theorem keepsImport_checkUnoccupied {role : Role} {reconciled : Bool}
    (hstands : Stands library parseTime start i w) :
    KeepsImport library parseTime start i (Then library parseTime start i w fun _ _ => True)
      (checkUnoccupied role reconciled) w := by
  obtain ⟨mine, hat⟩ := hstands
  rw [checkUnoccupied]
  split
  · exact upholds_pure hat fun u hlater hat => ⟨hlater, ⟨_, hat⟩, trivial⟩
  · apply upholds_look_bind hat
    intro t seen hlater hat _
    refine upholds_lift hat fun u _ hlater' hat _ => ?_
    exact ⟨hlater.trans hlater', ⟨_, hat⟩, trivial⟩

/-- What is published is what is expected, whether it was there or not. -/
theorem keepsImport_publishStagedObject {object : PublicObject} {staged : Option Bytes}
    {expected : ObjectRef} {maximum : ℕ} {allowExisting : Bool}
    (himported : ImportObject.imported (.inl object) = true)
    (hstands : Stands library parseTime start i w)
    (hjustified : ∀ data t, staged = some data → refOf library object data = expected →
      w.Later t → Imported library parseTime (Created t.history) (.bytes data) (.inl object)) :
    KeepsImport library parseTime start i
      (Then library parseTime start i w fun ref there =>
        ref = expected ∧ Published library there object ref)
      (publishStagedObject library object staged expected maximum allowExisting) w := by
  obtain ⟨mine, hat⟩ := hstands
  apply upholds_look_bind hat
  intro t seen hlater hat hseen
  split
  · refine upholds_throwIf_bind fun _ => ?_
    refine upholds_lift_bind fun actual hactual => ?_
    refine upholds_throwIf_bind fun hsame => ?_
    obtain rfl := not_not.mp hsame
    obtain ⟨data, hdata, href⟩ := streamedObjectRef_ok (mapError_ok_iff.mp hactual)
    have hcreated := created_of_seen hat hseen himported (caseOf_eq_some hdata)
    refine upholds_pure hat fun u hlater' hat => ?_
    exact ⟨hlater.trans hlater', ⟨_, hat⟩, rfl, data, Created.later hlater' _ _ hcreated, href⟩
  · refine upholds_lift_bind fun data hstaged => ?_
    refine upholds_lift_bind fun actual hactual => ?_
    refine upholds_throwIf_bind fun hsame => ?_
    obtain rfl := not_not.mp hsame
    obtain ⟨found, hfound, href⟩ := streamedObjectRef_ok (mapError_ok_iff.mp hactual)
    obtain rfl := Option.some.inj hfound
    apply upholds_create_bind hat
    · intro u hlater' _
      exact hjustified data u (require_ok_iff.mp hstaged) href (hlater.trans hlater')
    · intro u hlater' hat
      refine upholds_throwIf_bind fun _ => ?_
      refine upholds_pure hat fun v hlater'' hat => ?_
      exact ⟨(hlater.trans hlater').trans hlater'', ⟨_, hat⟩, rfl, data,
        ⟨i, hat.mem List.mem_cons_self⟩, href⟩
    · intro u _ _
      exact upholds_throwIf_bind fun hfalse => (hfalse rfl).elim

/-- The enrollment is published, whether it was there or not. -/
theorem keepsImport_publishEnrollment {role : Role} {enrollment : ParticipantEnrollmentV5}
    (hstands : Stands library parseTime start i w)
    (hjustified : ∀ t, w.Later t → Imported library parseTime (Created t.history)
      (.bytes (marshalCanonical library .participantEnrollment enrollment))
      (.inl (.enrollment role))) :
    KeepsImport library parseTime start i
      (Then library parseTime start i w fun _ there => Enrolled there role)
      (publishEnrollment library role enrollment) w := by
  obtain ⟨mine, hat⟩ := hstands
  apply upholds_look_bind hat
  intro t seen hlater hat hseen
  split
  · refine upholds_lift_bind fun existing hexisting => ?_
    have hcreated := created_of_seen hat hseen rfl (caseOf_eq_some (readJSON_ok hexisting))
    refine upholds_lift hat fun u _ hlater' hat _ => ?_
    exact ⟨hlater.trans hlater', ⟨_, hat⟩, existing.2, Created.later hlater' _ _ hcreated⟩
  · apply upholds_create_bind hat
    · intro u hlater' _
      exact hjustified u (hlater.trans hlater')
    · intro u hlater' hat
      refine upholds_lift hat fun v _ hlater'' hat _ => ?_
      exact ⟨(hlater.trans hlater').trans hlater'', ⟨_, hat⟩, _,
        ⟨i, hat.mem List.mem_cons_self⟩⟩
    · intro u _ hat
      exact upholds_lift hat fun _ _ _ _ h => (revertIf_ok_iff.mp h rfl).elim

/-- A call that was let through publishes its submission, in order. -/
theorem keepsImport_publishStaged (hs : s.Verified library parseTime)
    (hstands : Stands library parseTime start i w) :
    KeepsImport library parseTime start i (fun _ _ => True)
      (publishStaged library s.request s.verification s.digest s.staging) w := by
  obtain ⟨seen, hstaging⟩ := hs.staged
  obtain ⟨manifest, hstaged⟩ := loadStaging_ok hstaging
  refine keepsImport_bind (keepsImport_claim hs hstands) fun claimed w₁ _ hstands hclaim => ?_
  refine keepsImport_bind (keepsImport_admitRole hs hstands hclaim)
    fun admitted w₂ _ hstands hadmitted => ?_
  refine keepsImport_bind (keepsImport_checkOtherNonce hstands) fun _ w₃ hlater₃ hstands _ => ?_
  refine keepsImport_bind (keepsImport_checkUnoccupied hstands) fun _ w₄ hlater₄ hstands _ => ?_
  replace hadmitted := hadmitted.mono (Created.later (hlater₃.trans hlater₄))
  refine keepsImport_bind (keepsImport_publishStagedObject rfl hstands ?_)
    fun ciphertextObject w₅ hlater₅ hstands hciphertext => ?_
  · intro data t _ href hlater
    exact ⟨s, data, hadmitted.mono (Created.later hlater), rfl, rfl, href⟩
  obtain ⟨rfl, hciphertext⟩ := hciphertext
  replace hadmitted := hadmitted.mono (Created.later hlater₅)
  refine upholds_lift_bind fun enrollment henrollment => ?_
  refine keepsImport_bind (keepsImport_publishEnrollment hstands ?_)
    fun _ w₆ hlater₆ hstands henrolled => ?_
  · intro t hlater
    exact ⟨s, enrollment, hadmitted.mono (Created.later hlater), rfl,
      hciphertext.mono (Created.later hlater), henrollment, rfl⟩
  replace hadmitted := hadmitted.mono (Created.later hlater₆)
  replace hciphertext := hciphertext.mono (Created.later hlater₆)
  refine keepsImport_bind (keepsImport_publishStagedObject rfl hstands ?_)
    fun artifactObject w₇ hlater₇ hstands hmanifest => ?_
  · intro data t hdata _ hlater
    refine ⟨s, data, hadmitted.mono (Created.later hlater), rfl,
      hciphertext.mono (Created.later hlater), henrolled.mono (Created.later hlater), ?_, rfl⟩
    simpa only [Quarantine.objects, if_pos] using hdata
  obtain ⟨rfl, hmanifest⟩ := hmanifest
  obtain ⟨mine, hat⟩ := hstands
  apply upholds_create_bind hat
  · intro t hlater _
    have hwhole := hlater₇.trans hlater
    exact ⟨s, _, hadmitted.mono (Created.later hwhole), rfl,
      hciphertext.mono (Created.later hwhole), henrolled.mono (Created.later hwhole),
      hmanifest.mono (Created.later hlater), rfl, rfl⟩
  · intro t _ hat
    refine upholds_throwIf_bind fun _ => ?_
    exact upholds_pure hat fun _ _ _ => trivial
  · intro t _ hat
    refine upholds_throwIf_bind fun _ => ?_
    exact upholds_pure hat fun _ _ _ => trivial

/-- **Step.** A call keeps to the charter. -/
theorem keepsImport_publish (request : ImportRequest)
    (hat : (importCharter library parseTime start ι).At i [] w) :
    KeepsImport library parseTime start i (fun _ _ => True)
      (publishParticipantOriginatedArtifact library parseTime request) w := by
  simp only [publishParticipantOriginatedArtifact, inspecting, Program.bind_assoc]
  apply upholds_look_bind hat
  intro t seen _ hat _
  refine upholds_lift_bind fun verification hverified => ?_
  refine upholds_lift_bind fun digest hdigested => ?_
  apply upholds_look_bind hat
  intro u seen' _ hat _
  refine upholds_lift_bind fun staging hstaged => ?_
  apply upholds_look_bind hat
  intro v seen'' _ hat _
  refine upholds_throwIf_bind fun _ => ?_
  exact keepsImport_publishStaged (s := ⟨request, verification, digest, staging⟩)
    ⟨⟨_, hverified⟩, hdigested, _, hstaged⟩ ⟨_, hat⟩

end

/-! ## Whole runs -/

/-- What a store shows. -/
def inStore (objects : Objects ImportObject ImportValue) : There :=
  fun object value => objects object = some value

/-- What holds of the imports of a case at any time, and between two times. -/
structure ImportsAgree (library : Library) (parseTime : String → Option ℤ)
    (before after : Objects ImportObject ImportValue) : Prop where
  /-- What is there stays, admissions among it. -/
  kept : before.Extends after
  /-- A role's admission is that of one verified submission. -/
  admission : ∀ {role value}, after (.inr (.admitted role)) = some value →
    ∃ s : Submission, s.Verified library parseTime ∧ s.role = role ∧
      value = .admission s.admission
  /-- The ciphertext is the one of a verification with the admitted digest. -/
  ciphertext : ∀ {role value}, after (.inl (.submission role)) = some value →
    ∃ (s : Submission) (data : Bytes), s.Admitted library parseTime (inStore after) ∧
      s.role = role ∧ value = .bytes data ∧
      refOf library (.submission role) data = s.verification.ciphertextObject
  /-- So is the enrollment. -/
  enrollment : ∀ {role value}, after (.inl (.enrollment role)) = some value →
    ∃ (s : Submission) (enrollment : ParticipantEnrollmentV5),
      s.Admitted library parseTime (inStore after) ∧ s.role = role ∧
      deriveEnrollment library s.request s.staging = .ok enrollment ∧
      value = .bytes (marshalCanonical library .participantEnrollment enrollment) ∧
      enrollment.artifactDigest = s.verification.artifactDigest ∧
      enrollment.ciphertextDigest = s.verification.ciphertextDigest
  /-- And so is the manifest. -/
  manifest : ∀ {role value}, after (.inl (.submissionManifest role)) = some value →
    ∃ (s : Submission) (data : Bytes), s.Admitted library parseTime (inStore after) ∧
      s.role = role ∧ value = .bytes data ∧
      refOf library (.submissionManifest role) data = s.verification.artifactObject ∧
      documentDigest library data = s.verification.artifactDigest
  /-- Behind a manifest are the ciphertext that it names and the enrollment of both. -/
  manifestLast : ∀ {role manifest},
    after (.inl (.submissionManifest role)) = some (.bytes manifest) →
    ∃ (artifact : EncryptedParticipantArtifact) (ciphertext : Bytes)
      (enrollment : ParticipantEnrollmentV5),
      decodeStrict library .participantArtifact manifest = .ok artifact ∧
      after (.inl (.submission role)) = some (.bytes ciphertext) ∧
      artifact.ciphertextObject = refOf library (.submission role) ciphertext ∧
      after (.inl (.enrollment role)) =
        some (.bytes (marshalCanonical library .participantEnrollment enrollment)) ∧
      enrollment.artifactDigest = documentDigest library manifest ∧
      enrollment.ciphertextDigest = library.sha256 ciphertext
  /-- The two roles are admitted with different nonces. -/
  nonces : ∀ {a b}, after (.inr (.admitted .a)) = some (.admission a) →
    after (.inr (.admitted .b)) = some (.admission b) → a.submissionNonce ≠ b.submissionNonce
  /-- What is completed is admitted, and is published whole. -/
  completed : ∀ {role value}, after (.inr (.completed role)) = some value →
    ∃ (completion : ParticipantOriginatedImportCompletion)
      (admission : ParticipantOriginatedImportAdmission) (ciphertext enrollment manifest : Bytes),
      value = .completion completion ∧
      after (.inr (.admitted role)) = some (.admission admission) ∧
      completion.verificationDigest = admission.verificationDigest ∧
      after (.inl (.submission role)) = some (.bytes ciphertext) ∧
      completion.ciphertextObject = refOf library (.submission role) ciphertext ∧
      after (.inl (.enrollment role)) = some (.bytes enrollment) ∧
      after (.inl (.submissionManifest role)) = some (.bytes manifest) ∧
      completion.artifactObject = refOf library (.submissionManifest role) manifest

section

variable {library : Library} {parseTime : String → Option ℤ}
  {objects before : Objects ImportObject ImportValue} {s s' : Submission}

/-- Submissions that agree with one admission agree. -/
theorem Submission.Admitted.agree (h : s.Admitted library parseTime (inStore objects))
    (h' : s'.Admitted library parseTime (inStore objects)) (hrole : s.role = s'.role) :
    s.digest = s'.digest ∧ s.verification.artifactDigest = s'.verification.artifactDigest ∧
      s.verification.ciphertextDigest = s'.verification.ciphertextDigest := by
  obtain ⟨admission, hthere, heq⟩ := h.admitted
  obtain ⟨admission', hthere', heq'⟩ := h'.admitted
  rw [← hrole] at hthere'
  obtain rfl : admission = admission' :=
    ImportValue.admission.inj (Option.some.inj (hthere.symm.trans hthere'))
  have hfields := congrArg (fun a : ParticipantOriginatedImportAdmission =>
    (a.verificationDigest, a.artifactDigest, a.ciphertextDigest)) heq
  have hfields' := congrArg (fun a : ParticipantOriginatedImportAdmission =>
    (a.verificationDigest, a.artifactDigest, a.ciphertextDigest)) heq'
  obtain ⟨hdigest, hartifact, hciphertext⟩ := Prod.mk.inj (hfields.symm.trans hfields') |>.imp_right
    Prod.mk.inj
  exact ⟨hdigest, hartifact, hciphertext⟩

theorem Submission.Verified.staging (h : s.Verified library parseTime) :
    ∃ data, s.Staged library data := by
  obtain ⟨seen, hstaging⟩ := h.staged
  exact loadStaging_ok hstaging

theorem Submission.Verified.role_eq (h : s.Verified library parseTime) :
    s.verification.role = s.role.text := by
  obtain ⟨seen, hverified⟩ := h.verified
  exact verifyStagedArtifact_role hverified

theorem Role.text_injective {role role' : Role} (h : role.text = role'.text) : role = role' := by
  cases role <;> cases role' <;> first | rfl | exact absurd h (by decide)

/-- Where every object is justified, the imports agree. -/
theorem importsAgree_of_imported (hkept : before.Extends objects)
    (himported : ∀ object value, ImportObject.imported object = true →
      objects object = some value → Imported library parseTime (inStore objects) value object) :
    ImportsAgree library parseTime before objects where
  kept := hkept
  admission h := by
    obtain ⟨s, hverified, hrole, -, hvalue⟩ := himported _ _ rfl h
    exact ⟨s, hverified, hrole, hvalue⟩
  ciphertext h := by
    obtain ⟨s, data, hadmitted, hrole, hvalue, href⟩ := himported _ _ rfl h
    obtain ⟨manifest, hstaged⟩ := hadmitted.verified.staging
    exact ⟨s, data, hadmitted, hrole, hvalue, href.trans hstaged.ciphertextRef⟩
  enrollment h := by
    obtain ⟨s, enrollment, hadmitted, hrole, -, hderived, hvalue⟩ := himported _ _ rfl h
    obtain ⟨manifest, hstaged⟩ := hadmitted.verified.staging
    obtain ⟨hartifact, hciphertext⟩ := deriveEnrollment_ok hderived
    refine ⟨s, enrollment, hadmitted, hrole, hderived, hvalue,
      hartifact.trans hstaged.artifactDigest, hciphertext.trans ?_⟩
    rw [hstaged.ciphertextObject]
    exact digest_ok hadmitted.verified.digested
  manifest h := by
    obtain ⟨s, data, hadmitted, rfl, -, -, hdata, hvalue⟩ := himported _ _ rfl h
    obtain ⟨manifest, hstaged⟩ := hadmitted.verified.staging
    obtain rfl := Option.some.inj (hdata.symm.trans hstaged.manifest)
    exact ⟨s, data, hadmitted, rfl, hvalue, hstaged.ref, hstaged.digest⟩
  manifestLast h := by
    obtain ⟨s, data, hadmitted, rfl, ⟨ciphertext, hciphertext, href⟩, ⟨_, henrolled⟩, hdata,
      hvalue⟩ := himported _ _ rfl h
    obtain rfl := ImportValue.bytes.inj hvalue
    obtain ⟨manifest, hstaged⟩ := hadmitted.verified.staging
    obtain rfl := Option.some.inj (hdata.symm.trans hstaged.manifest)
    obtain ⟨s', enrollment, hadmitted', hrole, -, hderived, hvalue⟩ := himported _ _ rfl henrolled
    obtain rfl := ImportValue.bytes.inj hvalue
    obtain ⟨manifest', hstaged'⟩ := hadmitted'.verified.staging
    obtain ⟨-, hartifact, hdigest⟩ := hadmitted.agree hadmitted' hrole.symm
    obtain ⟨hartifact', hdigest'⟩ := deriveEnrollment_ok hderived
    refine ⟨s.staging.artifact, ciphertext, enrollment, hstaged.decoded, hciphertext, ?_,
      henrolled, ?_, ?_⟩
    · rw [href, hstaged.ciphertextRef]
      exact hstaged.ciphertextObject
    · rw [hartifact', hstaged'.artifactDigest, ← hartifact, hstaged.digest]
    · calc enrollment.ciphertextDigest
          = s'.verification.ciphertextDigest := by
            rw [hdigest', hstaged'.ciphertextObject]
            exact digest_ok hadmitted'.verified.digested
        _ = s.verification.ciphertextObject.digest := by
            rw [← hdigest]
            exact (digest_ok hadmitted.verified.digested).symm
        _ = library.sha256 ciphertext := by
            rw [← hstaged.ciphertextRef, ← href]
            rfl
  nonces {a b} ha hb heq := by
    obtain ⟨s, hverified, hrole, hclaim, hvalue⟩ := himported _ _ rfl ha
    obtain ⟨s', hverified', hrole', hclaim', hvalue'⟩ := himported _ _ rfl hb
    obtain rfl := ImportValue.admission.inj hvalue
    obtain rfl := ImportValue.admission.inj hvalue'
    -- one claim holds the nonce, and it names one role
    have hnonce : s.verification.submissionNonce = s'.verification.submissionNonce := heq
    rw [hnonce] at hclaim
    have hsame := congrArg ParticipantOriginatedNonceClaim.role
      (ImportValue.claim.inj (Option.some.inj (hclaim.symm.trans hclaim')))
    have htext : s.role.text = s'.role.text :=
      hverified.role_eq.symm.trans (hsame.trans hverified'.role_eq)
    rw [hrole, hrole'] at htext
    exact nomatch Role.text_injective htext
  completed h := by
    obtain ⟨s, completion, hadmitted, rfl, ⟨ciphertext, hciphertext, href⟩, ⟨enrollment, henrolled⟩,
      ⟨manifest, hmanifest, href'⟩, hdigest, hvalue⟩ := himported _ _ rfl h
    obtain ⟨admission, hthere, heq⟩ := hadmitted.admitted
    have hsame := congrArg ParticipantOriginatedImportAdmission.verificationDigest heq
    exact ⟨completion, admission, ciphertext, enrollment, manifest, hvalue, hthere,
      hdigest.trans hsame.symm, hciphertext, href.symm, henrolled, hmanifest, href'.symm⟩

variable {ι : Type} [DecidableEq ι]

/-- The two stores and the calls. -/
abbrev ImportPool (ι : Type) : Type :=
  Pool ι (Archive ι ImportObject ImportValue Empty) (ArchiveOp ImportObject ImportValue Empty)
    ArchiveOp.Answer Thrown ImportReport

/-- Before any call. -/
def UnimportedCase.start (opened : UnimportedCase) (trouble : ℕ → Trouble ImportObject) :
    ImportPool ι :=
  ⟨{ objects := opened.objects, trouble }, fun _ => .idle⟩

/-- Calls start, go on and are cut off in any order. -/
def importRun (library : Library) (parseTime : String → Option ℤ) (pool : ImportPool ι)
    (moves : List (Move ι ImportRequest)) : Except Unscheduled (ImportPool ι) :=
  run (Pool.exec (archiveEffects ι ImportObject ImportValue Empty)
    fun _ => publishParticipantOriginatedArtifact library parseTime) pool moves

variable {opened : UnimportedCase} {trouble : ℕ → Trouble ImportObject}
  {earlier later : List (Move ι ImportRequest)} {first last : ImportPool ι}

/-- **Theorem (imports).** Whatever imports are asked for, in whatever order they go on and
wherever they are cut off. -/
theorem imports_agree
    (hfirst : importRun library parseTime (opened.start trouble) earlier = .ok first)
    (hlast : importRun library parseTime first later = .ok last) :
    ImportsAgree library parseTime first.state.objects last.state.objects := by
  have hprogram : ∀ i request w, (importCharter library parseTime opened ι).At i [] w →
      Upholds (importCharter library parseTime opened ι).discipline i (onOk fun _ _ => True)
        (publishParticipantOriginatedArtifact library parseTime request) w :=
    fun _ request _ hat => keepsImport_publish request hat
  obtain ⟨-, hpool⟩ := Charter.run_sound hprogram hfirst
  have hwhole : importRun library parseTime (opened.start trouble) (earlier ++ later) = .ok last :=
    run_append_ok_iff.mpr ⟨first, hfirst, hlast⟩
  obtain ⟨hsound, -⟩ := Charter.run_sound hprogram hwhole
  apply importsAgree_of_imported (Charter.run_later hprogram hlast hpool).objects
  intro object value himported hvalue
  obtain ⟨i, hcreated⟩ := hsound.created hvalue (opened.unimported object himported)
  apply Imported.mono (hsound.justified hcreated)
  intro other found ⟨j, hfound⟩
  exact hsound.there hfound

end

/-! ## A run -/

/-- The protection of the case that is imported into. -/
def sampleProtection : MordantProtectionBinding :=
  let library := sampleLibrary fun _ _ => none
  let binding : MordantProtectionBinding :=
    { schemaVersion := protectionBindingSchema
      cleanverseAssetRecordDigest := sampleBinding.assetIdentity
      protectionService := GovernedFhe.protectionService
      protectionServiceVersion := GovernedFhe.protectionServiceVersion
      policyID := protectionPolicyID library
      policyVersion := protectionPolicyVersion
      productScenario := "conflict"
      fixtureClassification := protectionFixtureClass
      protectedAmount := ⟨"aUSDC", "100000000"⟩
      reserveBasisPoints := mvpReserveBasisPoints
      reserveAmount := ⟨"aUSDC", "10000000"⟩
      holderRecordDate := "5"
      holderSnapshot := fixedHolders
      holderAllocationDigest := 0
      caseNonce := sampleBinding.caseNonce
      fheCaseID := 0
      governedReleaseMode := sampleBinding.releaseMode
      executionVariant := "" }
  let allocation := protectionHolderAllocationDigest library binding
  { binding with
    holderAllocationDigest := allocation
    fheCaseID := protectionFHECaseID library binding allocation }

def importBinding : FHECaseBinding :=
  { sampleBinding with caseID := sampleProtection.fheCaseID, policyID := sampleProtection.policyID }

def importArtifact (role : Role) : EncryptedParticipantArtifact :=
  { sampleArtifact role with caseID := importBinding.caseID }

def importSignature (role : Role) : ProtectionBindingSignature :=
  ⟨⟨role.text, (sampleIdentity role).id, sampleHash []⟩, List.replicate 64 4⟩

/-- What stands for a document of an import. -/
def importMarshal : (document : Document) → document.Value → Bytes
  | .protectionSignature, signature => [18, UInt8.ofNat signature.participantID.toNat]
  | .importVerification, verification => [19, UInt8.ofNat verification.submissionNonce.toNat]
  | document, value => sampleMarshal document value

def importUnmarshal : (document : Document) → Bytes → Option document.Value
  | .caseBinding, [0, 10] => some importBinding
  | .caseCrypto, [2, 10] => some sampleCrypto
  | .caseManifest, [4, 10] => some { sampleManifest with binding := importBinding }
  | .participantArtifact, [6, 21, 10] => some (importArtifact .a)
  | .participantArtifact, [6, 22, 10] => some (importArtifact .b)
  | .protectionBinding, [10] => some sampleProtection
  | .protectionSignature, [18, 21, 10] => some (importSignature .a)
  | .protectionSignature, [18, 22, 10] => some (importSignature .b)
  | _, _ => none

def importLibrary : Library :=
  { sampleLibrary fun _ _ => none with
    codec := fun document => ⟨importMarshal document, importUnmarshal document⟩ }

def sampleTime (date : String) : Option ℤ := if date = "5" then some 5 else none

/-- The case before anything is imported. -/
def importObjects : Objects ImportObject ImportValue
  | .inl .parameters => some (.bytes [40])
  | .inl .publicKey => some (.bytes [41])
  | .inl .caseBinding => some (.bytes [0, 10])
  | .inl .caseCrypto => some (.bytes [2, 10])
  | .inl .caseManifest => some (.bytes [4, 10])
  | .inl .protectionBinding => some (.bytes [10])
  | .inl (.protectionSignature role) => some (.bytes [18, role.number, 10])
  | _ => none

theorem importObjects_unimported (object : ImportObject) (h : object.imported = true) :
    importObjects object = none := by
  cases object with
  | inl object =>
      cases object with
      | submission role | submissionManifest role | enrollment role => rfl
      | _ => exact nomatch h
  | inr object => rfl

def importCase : UnimportedCase := ⟨importObjects, importObjects_unimported⟩

def importExpectations (role : Role) (signature : Bytes) : ImportExpectations where
  role
  caseID := importBinding.caseID
  assetIdentity := importBinding.assetIdentity
  caseBindingDigest := sampleHash [0]
  signingKeyDigest := sampleHash (sampleIdentity role).signingPublicKey
  bundleDigest := 51
  encryptionIntentDigest := 37
  claimCommitment := 38
  submissionNonce := (sampleArtifact role).submissionNonce
  artifactDigest := sampleHash [6, role.number]
  ciphertextDigest := sampleHash [43, role.number]
  finalEncryptedAdmissionDigest := 52
  enrollmentSignature := signature

def importRequest (role : Role) (signature : Bytes) : ImportRequest where
  expected := importExpectations role signature
  quarantine := ⟨some [43, role.number], some [6, role.number, 10], false⟩
  now := 30

/-- A call for the first role that is lost when it has claimed the nonce. -/
def lostImport : List (Move (Fin 3) ImportRequest) :=
  .start 0 (importRequest .a (List.replicate 64 4)) :: List.replicate 5 (.step 0) ++ [.crash 0]

/-- Another for the same role, and one for the second role, step by step. -/
def nextImports : List (Move (Fin 3) ImportRequest) :=
  .start 1 (importRequest .a (List.replicate 64 4)) ::
    .start 2 (importRequest .b (List.replicate 64 4)) ::
    (List.replicate 15 [.step 1, .step 2]).flatten

theorem nextImports_ok :
    (((importRun importLibrary sampleTime (importCase.start fun _ => {})
        lostImport).toOption.bind fun first =>
      (importRun importLibrary sampleTime first nextImports).toOption).any fun last =>
        (last.state.objects (.inr (.completed .a))).isSome &&
          (last.state.objects (.inr (.completed .b))).isSome) = true := by
  decide +kernel

theorem imports_agree_sample :
    ∃ first last : ImportPool (Fin 3),
      importRun importLibrary sampleTime (importCase.start fun _ => {}) lostImport = .ok first ∧
        importRun importLibrary sampleTime first nextImports = .ok last ∧
        ImportsAgree importLibrary sampleTime first.state.objects last.state.objects := by
  obtain ⟨last, hruns, -⟩ := (Option.any_eq_true _ _).mp nextImports_ok
  obtain ⟨first, hfirst, hlast⟩ := Option.bind_eq_some_iff.mp hruns
  have hfirst := toOption_eq_some_iff.mp hfirst
  have hlast := toOption_eq_some_iff.mp hlast
  exact ⟨first, last, hfirst, hlast, imports_agree hfirst hlast⟩

end Mordant.GovernedFhe
