/-
# What a refused import leaves

A publication is refused at any of a dozen points, some of them behind its first writes: the
claim to the nonce comes before the check that the role is free, and the enrollment is checked
when claim, admission and ciphertext are there.

A call here is alone with two stores that may lack room for an object.
-/

import Mordant.Foundation.Solo
import Mordant.GovernedFhe.IntakeAgreement

namespace Mordant.GovernedFhe

open Evm Foundation
open Coalition (Digest)

/-! ## Two stores with quotas -/

/-- What an import comes to, and what it leaves. -/
def importAlone (library : Library) (parseTime : String → Option ℤ)
    (room : Room ImportObject ImportValue) (request : ImportRequest)
    (objects : Objects ImportObject ImportValue) :
    Except Thrown ImportReport × Objects ImportObject ImportValue :=
  (publishParticipantOriginatedArtifact library parseTime request).alone (storeEffects room) ()
    objects

/-! ## The traces -/

section

variable (library : Library) (parseTime : String → Option ℤ) (room : Room ImportObject ImportValue)
  (objects : Objects ImportObject ImportValue) (s : Submission)

namespace Submission

/-- The call is let through to the journal. -/
structure LetThrough : Prop where
  verified : verifyStagedArtifact library parseTime s.request (caseOf objects) = .ok s.verification
  digested : s.verification.digest library s.role = .ok s.digest
  staged : loadStaging library parseTime s.request s.verification (caseOf objects) = .ok s.staging
  uncompleted : objects (.inr (.completed s.role)) = none

abbrev claimObject : ImportObject := .inr (.nonceClaim s.verification.submissionNonce)

/-- The nonce is claimed for this submission. -/
def Claimed : Prop := objects s.claimObject = some (.claim s.claim)

/-- The role is admitted as this submission. -/
def AdmittedAs : Prop :=
  ∃ admission, objects (.inr (.admitted s.role)) = some (.admission admission) ∧
    { admission with admittedAtUnix := s.request.now } = s.admission

/-- The other role has not published the nonce. -/
def NonceFree : Prop :=
  (objects (.inl (.submissionManifest s.role.other))).isSome →
    ∃ other data, readJSON library .participantArtifact
      (caseOf objects (.submissionManifest s.role.other)) = .ok (other, data) ∧
      other.submissionNonce ≠ s.verification.submissionNonce

/-- The object is published as it is expected. -/
def PublishedAs (object : PublicObject) (maximum : ℕ) (expected : ObjectRef) : Prop :=
  (objects (.inl object)).isSome ∧
    streamedObjectRef library object (caseOf objects object) maximum = .ok expected

/-- The role is enrolled, and this is signed. -/
def EnrolledAs (enrollment : ParticipantEnrollmentV5) : Prop :=
  (objects (.inl (.enrollment s.role))).isSome ∧
    ∃ existing data, readJSON library .participantEnrollment
      (caseOf objects (.enrollment s.role)) = .ok (existing, data) ∧
      existing.enrollmentSigningDigest = enrollment.enrollmentSigningDigest

/-- The call leaves a trace, whatever becomes of it: of the claim, the admission, the
ciphertext, the enrollment and the manifest there is one that it creates, and those before it
are there, as they are for this submission. -/
def LeavesTrace : Prop :=
  Creates room objects s.claimObject (.claim s.claim) ∨
  s.Claimed objects ∧
  (Creates room objects (.inr (.admitted s.role)) (.admission s.admission) ∨
  s.AdmittedAs objects ∧ s.NonceFree library objects ∧
  ((∃ data, s.request.quarantine.ciphertext = some data ∧
    Creates room objects (.inl (.submission s.role)) (.bytes data)) ∨
  PublishedAs library objects (.submission s.role) maximumCiphertextBytes s.staging.ciphertextRef ∧
  ∃ enrollment, deriveEnrollment library s.request s.staging = .ok enrollment ∧
    (Creates room objects (.inl (.enrollment s.role))
      (.bytes (marshalCanonical library .participantEnrollment enrollment)) ∨
    s.EnrolledAs library objects enrollment ∧
    ∃ data, s.request.quarantine.manifest = some data ∧
      Creates room objects (.inl (.submissionManifest s.role)) (.bytes data))))

end Submission

end

/-! ## The parts of a publication -/

section

variable {library : Library} {parseTime : String → Option ℤ} {room : Room ImportObject ImportValue}
  {objects : Objects ImportObject ImportValue} {s : Submission}

theorem writesUnder_claim :
    WritesUnder room objects (Creates room objects s.claimObject (.claim s.claim))
    (fun claimed => claimed = true ∧ s.Claimed objects)
    (claimParticipantOriginatedNonce s.digest s.verification) := by
  apply solo_create_bind
  · intro hnone hroom
    exact solo_pure (.inr ⟨⟨hnone, hroom⟩, _, _, hnone, Function.update_self ..⟩)
  · intro hnot
    apply solo_look_bind
    cases hexisting : objects s.claimObject with
    | none =>
        refine ⟨rfl, hnot, fun _ hclaimed => ?_⟩
        exact nomatch hexisting.symm.trans hclaimed.2
    | some existing =>
        apply solo_bind
        apply solo_lift
        · intro found hfound
          obtain rfl : existing = found := Option.some.inj (require_ok_iff.mp hfound)
          apply solo_bind
          apply solo_throwIf
          · intro hsame
            obtain rfl := not_not.mp hsame
            exact .inl ⟨rfl, hnot, ⟨rfl, hexisting⟩, fun _ hclaimed => hclaimed.1⟩
          · intro hdiffers
            refine ⟨rfl, hnot, fun _ hclaimed => hdiffers ?_⟩
            exact Option.some.inj (hexisting.symm.trans hclaimed.2)
        · intro error herror
          exact nomatch herror

theorem writesUnder_admitRole :
    WritesUnder room objects
      (Creates room objects (.inr (.admitted s.role)) (.admission s.admission))
      (fun admitted => admitted = true ∧ s.AdmittedAs objects) (admitRole s.role s.admission) := by
  apply solo_look_bind
  split
  · next existing hexisting =>
      have hnot : ¬ Creates room objects (.inr (.admitted s.role)) (.admission s.admission) :=
        fun hfree => nomatch hfree.1.symm.trans hexisting
      apply solo_bind
      apply solo_throwIf
      · intro hsame
        exact .inl ⟨rfl, hnot, ⟨rfl, existing, hexisting, not_not.mp hsame⟩, fun _ h => h.1⟩
      · intro hdiffers
        refine ⟨rfl, hnot, fun _ ⟨_, admission, hthere, hsame⟩ => hdiffers ?_⟩
        obtain rfl := ImportValue.admission.inj (Option.some.inj (hexisting.symm.trans hthere))
        exact hsame
  · next value hother hvalue =>
      refine ⟨rfl, ?_, fun _ ⟨_, admission, hthere, _⟩ => ?_⟩
      · rintro ⟨hfree, -⟩
        exact nomatch hfree.symm.trans hvalue
      · exact hother admission (Option.some.inj (hvalue.symm.trans hthere))
  · next hnone =>
      apply solo_create_bind
      · intro _ hroom
        exact .inr ⟨⟨hnone, hroom⟩, _, _, hnone, Function.update_self ..⟩
      · intro hnot
        refine ⟨rfl, hnot, fun _ ⟨_, admission, hthere, _⟩ => ?_⟩
        exact nomatch hnone.symm.trans hthere

theorem writesUnder_checkOtherNonce :
    WritesUnder room objects False (fun u => u = () ∧ s.NonceFree library objects)
      (checkOtherNonce library s.role s.verification.submissionNonce) := by
  apply solo_look_bind
  split
  · next hother =>
      apply solo_bind
      apply solo_lift
      · rintro ⟨other, data⟩ hread
        have hread := mapError_ok_iff.mp hread
        apply solo_throwIf
        · intro hfree
          exact .inl ⟨rfl, id, ⟨rfl, fun _ => ⟨other, data, hread, hfree⟩⟩, fun _ _ => rfl⟩
        · intro hsame
          refine ⟨rfl, id, fun _ hdone => ?_⟩
          obtain ⟨found, _, hfound, hdiffers⟩ := hdone.2 hother
          obtain ⟨rfl, -⟩ := Prod.mk.inj (Except.ok.inj (hread.symm.trans hfound))
          exact hdiffers hsame
      · intro error herror
        refine ⟨rfl, id, fun _ hdone => ?_⟩
        obtain ⟨found, data, hfound, -⟩ := hdone.2 hother
        rw [hfound] at herror
        cases herror
  · next hnone => exact .inl ⟨rfl, id, ⟨rfl, fun hsome => (hnone hsome).elim⟩, fun _ _ => rfl⟩

/-- Where an object is there, it has to be the one that is expected; where it is not, the
staged one is. -/
theorem writesUnder_publishStagedObject {object : PublicObject} {staged : Option Bytes}
    {expected : ObjectRef} {maximum : ℕ}
    (hstaged : streamedObjectRef library object staged maximum = .ok expected) :
    WritesUnder room objects
      (∃ data, staged = some data ∧ Creates room objects (.inl object) (.bytes data))
      (fun ref => ref = expected ∧
        Submission.PublishedAs library objects object maximum expected)
      (publishStagedObject library object staged expected maximum true) := by
  obtain ⟨data, rfl, -⟩ := streamedObjectRef_ok hstaged
  apply solo_look_bind
  split
  · next hsome =>
      have hnot : ¬ ∃ found, some data = some found ∧
          Creates room objects (.inl object) (.bytes found) := by
        rintro ⟨_, -, hnone, -⟩
        rw [hnone] at hsome
        cases hsome
      apply solo_bind
      apply solo_throwIf
      · intro _
        apply solo_bind
        apply solo_lift
        · intro actual hactual
          apply solo_bind
          apply solo_throwIf
          · intro hsame
            obtain rfl := not_not.mp hsame
            exact .inl ⟨rfl, hnot, ⟨rfl, hsome, mapError_ok_iff.mp hactual⟩, fun _ h => h.1⟩
          · intro hdiffers
            refine ⟨rfl, hnot, fun _ hpublished => hdiffers ?_⟩
            exact Except.ok.inj ((mapError_ok_iff.mp hactual).symm.trans hpublished.2.2)
        · intro error herror
          refine ⟨rfl, hnot, fun _ hpublished => ?_⟩
          rw [hpublished.2.2] at herror
          cases herror
      · intro hfalse
        exact (Bool.noConfusion hfalse)
  · next hnone =>
      have hunpublished (ref : ObjectRef) : ¬ (ref = expected ∧
          Submission.PublishedAs library objects object maximum expected) :=
        fun hpublished => hnone hpublished.2.1
      show Solo _ _ _ _ (Program.lift ((streamedObjectRef library object (some data)
        maximum).mapError _) >>= _) objects
      rw [hstaged]
      show Solo _ _ _ _ (Program.throwIf (expected ≠ expected) _ >>= _) objects
      apply solo_bind
      apply solo_throwIf
      · intro _
        apply solo_create_bind
        · intro hfree hroom
          exact .inr ⟨⟨data, rfl, hfree, hroom⟩, _, _, hfree, Function.update_self ..⟩
        · intro hnot
          refine ⟨rfl, ?_, hunpublished⟩
          rintro ⟨found, hfound, hcreates⟩
          obtain rfl := Option.some.inj hfound
          exact hnot hcreates
      · intro hdiffers
        exact (hdiffers rfl).elim

theorem writesUnder_publishEnrollment {enrollment : ParticipantEnrollmentV5} :
    WritesUnder room objects
      (Creates room objects (.inl (.enrollment s.role))
        (.bytes (marshalCanonical library .participantEnrollment enrollment)))
      (fun u => u = () ∧ s.EnrolledAs library objects enrollment)
      (publishEnrollment library s.role enrollment) := by
  apply solo_look_bind
  split
  · next hsome =>
      have hnot : ¬ Creates room objects (.inl (.enrollment s.role))
          (.bytes (marshalCanonical library .participantEnrollment enrollment)) := by
        rintro ⟨hnone, -⟩
        rw [hnone] at hsome
        cases hsome
      apply solo_bind
      apply solo_lift
      · rintro ⟨existing, data⟩ hread
        apply solo_throwIf
        · intro hsame
          exact .inl ⟨rfl, hnot, ⟨rfl, hsome, existing, data, hread, not_not.mp hsame⟩,
            fun _ _ => rfl⟩
        · intro hdiffers
          refine ⟨rfl, hnot, fun _ hdone => hdiffers ?_⟩
          obtain ⟨_, _, found, _, hfound, hsame⟩ := hdone
          obtain ⟨rfl, -⟩ := Prod.mk.inj (Except.ok.inj (hread.symm.trans hfound))
          exact hsame
      · intro error herror
        refine ⟨rfl, hnot, fun _ hdone => ?_⟩
        obtain ⟨_, _, found, _, hfound, _⟩ := hdone
        cases herror.symm.trans hfound
  · next hnone =>
      apply solo_create_bind
      · intro hfree hroom
        exact .inr ⟨⟨hfree, hroom⟩, _, _, hfree, Function.update_self ..⟩
      · intro hnot
        exact ⟨rfl, hnot, fun _ henrolled => hnone henrolled.2.1⟩

theorem writesUnder_checkUnoccupied :
    WritesUnder room objects False (fun u => u = () ∧ True) (checkUnoccupied s.role true) :=
  .inl ⟨rfl, id, ⟨rfl, trivial⟩, fun _ _ => rfl⟩

/-- The completion is the last object: a call that creates it is not refused any more. -/
theorem traced_completed {completion : ParticipantOriginatedImportCompletion}
    {report : ImportReport} :
    Traced room objects False (do
      let created ← createJournal (.completed s.role) (.completion completion)
      Program.throwIf (created = false) (thrown .store)
      pure report) := by
  apply solo_create_bind
  · intro _ _
    exact trivial
  · intro _
    exact ⟨fun _ => id, fun _ => rfl⟩

/-- **Lemma (publication).** A call that is refused has left a trace exactly where it created
one of its objects. -/
theorem traced_publishStaged
    (hciphertext : streamedObjectRef library (.submission s.role) s.request.quarantine.ciphertext
      maximumCiphertextBytes = .ok s.staging.ciphertextRef)
    (hmanifest : streamedObjectRef library (.submissionManifest s.role)
      s.request.quarantine.manifest maxManifestBytes = .ok s.staging.artifactRef) :
    Traced room objects (s.LeavesTrace library room objects)
      (publishStaged library s.request s.verification s.digest s.staging) := by
  have hstaged : s.request.quarantine.objects s.role (.submission s.role) =
      s.request.quarantine.ciphertext := if_pos rfl
  have hstaged' : s.request.quarantine.objects s.role (.submissionManifest s.role) =
      s.request.quarantine.manifest := if_pos rfl
  rw [publishStaged, hstaged, hstaged']
  apply Traced.congr
  · apply WritesUnder.bind_of writesUnder_claim
    intro _
    apply WritesUnder.bind_of writesUnder_admitRole
    intro _
    apply WritesUnder.bind_of writesUnder_checkOtherNonce
    intro _
    apply WritesUnder.bind_of writesUnder_checkUnoccupied
    intro _
    apply WritesUnder.bind_of (writesUnder_publishStagedObject hciphertext)
    intro _
    apply Foundation.WritesUnder.bind writesUnder_lift
    intro enrollment _
    apply WritesUnder.bind_of writesUnder_publishEnrollment
    intro _
    apply WritesUnder.bind_of (writesUnder_publishStagedObject hmanifest)
    intro _
    exact traced_completed
  · simp only [false_or, true_and, and_false, or_false]
    rfl

end

/-! ## Refused imports -/

section

variable {library : Library} {parseTime : String → Option ℤ} {room : Room ImportObject ImportValue}
  {request : ImportRequest} {objects after : Objects ImportObject ImportValue} {refusal : Thrown}

theorem loadStaging_refs {s : Submission} {seen : PublicObject → Option Bytes}
    (h : loadStaging library parseTime s.request s.verification seen = .ok s.staging) :
    streamedObjectRef library (.submission s.role) s.request.quarantine.ciphertext
        maximumCiphertextBytes = .ok s.staging.ciphertextRef ∧
      streamedObjectRef library (.submissionManifest s.role) s.request.quarantine.manifest
        maxManifestBytes = .ok s.staging.artifactRef := by
  simp only [loadStaging, bind_ok_iff, exists_const, revertIf_ok_iff, mapError_ok_iff, pure_ok_iff,
    Prod.exists, Quarantine.objects, if_pos] at h
  obtain ⟨_, -, _, -, -, -, _, _, -, artifactRef, hartifact, ciphertextRef, hciphertext, -,
    hstaging⟩ := h
  rw [← hstaging]
  exact ⟨hciphertext, hartifact⟩

/-- What the call is let through with, if it is. -/
def Trace (library : Library) (parseTime : String → Option ℤ) (room : Room ImportObject ImportValue)
    (request : ImportRequest) (objects : Objects ImportObject ImportValue) : Prop :=
  ∃ s : Submission, s.request = request ∧ s.LetThrough library parseTime objects ∧
    s.LeavesTrace library room objects

theorem traced_publish : Traced room objects (Trace library parseTime room request objects)
    (publishParticipantOriginatedArtifact library parseTime request) := by
  simp only [publishParticipantOriginatedArtifact, inspecting, Program.bind_assoc]
  apply solo_look_bind
  apply Traced.congr
  · apply Foundation.WritesUnder.bind writesUnder_lift
    intro verification hverified
    apply Foundation.WritesUnder.bind writesUnder_lift
    intro digest hdigested
    apply solo_look_bind
    apply Foundation.WritesUnder.bind writesUnder_lift
    intro staging hstaged
    apply solo_look_bind
    apply WritesUnder.bind_of writesUnder_throwIf
    intro _
    let s : Submission := ⟨request, verification, digest, staging⟩
    obtain ⟨hciphertext, hmanifest⟩ := loadStaging_refs (s := s) hstaged
    exact traced_publishStaged hciphertext hmanifest
  · simp only [false_or]
    constructor
    · rintro ⟨verification, hverified, digest, hdigested, staging, hstaged, huncompleted, htrace⟩
      refine ⟨⟨request, verification, digest, staging⟩, rfl, ⟨hverified, hdigested, hstaged, ?_⟩,
        htrace⟩
      exact Option.not_isSome_iff_eq_none.mp huncompleted
    · rintro ⟨⟨_, verification, digest, staging⟩, rfl, h, htrace⟩
      exact ⟨verification, h.verified, digest, h.digested, staging, h.staged,
        Option.not_isSome_iff_eq_none.mpr h.uncompleted, htrace⟩

/-- **Theorem (refused imports).** A refused import leaves the two stores as they were exactly
where it was not let through to the journal, or what it comes to create first is in its way
or has no room. -/
theorem refused_import_leaves_nothing_iff
    (hrefused : importAlone library parseTime room request objects = (.error refusal, after)) :
    after = objects ↔ ∀ s : Submission, s.request = request →
      s.LetThrough library parseTime objects → ¬ s.LeavesTrace library room objects := by
  rw [Solo.error traced_publish hrefused, Trace]
  simp only [not_exists, not_and]

end

/-! ## A signature that does not verify -/

/-- An import whose enrollment is signed by nobody. -/
def unsignedRequest : ImportRequest := importRequest .a (List.replicate 64 5)

theorem unsigned_refused :
    ∃ refusal after, importAlone importLibrary sampleTime (fun _ _ _ => true) unsignedRequest
      importObjects = (.error refusal, after) ∧ (after (.inr (.admitted .a))).isSome = true := by
  have htest : (match importAlone importLibrary sampleTime (fun _ _ _ => true) unsignedRequest
      importObjects with
    | (.error _, after) => (after (.inr (.admitted .a))).isSome
    | (.ok _, _) => false) = true := by
    decide +kernel
  split at htest
  · next refusal after heq => exact ⟨refusal, after, heq, htest⟩
  · exact nomatch htest

theorem refused_import_leaves_nothing_iff_sample :
    ∃ refusal after, importAlone importLibrary sampleTime (fun _ _ _ => true) unsignedRequest
      importObjects = (.error refusal, after) ∧
      (after = importObjects ↔ ∀ s : Submission, s.request = unsignedRequest →
        s.LetThrough importLibrary sampleTime importObjects →
          ¬ s.LeavesTrace importLibrary (fun _ _ _ => true) importObjects) := by
  obtain ⟨refusal, after, hrefused, -⟩ := unsigned_refused
  exact ⟨refusal, after, hrefused, refused_import_leaves_nothing_iff hrefused⟩

/-- The import is refused when its admission is there. -/
theorem refused_import_leaves_admission :
    ¬ ∀ (library : Library) (parseTime : String → Option ℤ) (room : Room ImportObject ImportValue)
      (request : ImportRequest) (objects after : Objects ImportObject ImportValue)
      (refusal : Thrown),
      importAlone library parseTime room request objects = (.error refusal, after) →
        after = objects := by
  intro hclaim
  obtain ⟨refusal, after, hrefused, hadmitted⟩ := unsigned_refused
  obtain rfl := hclaim _ _ _ _ _ _ _ hrefused
  exact nomatch hadmitted

end Mordant.GovernedFhe
