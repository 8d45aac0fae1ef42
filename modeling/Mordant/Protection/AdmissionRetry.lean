/-
# The exact retry

A role on record that can still submit does so when the request that put it there is made
again.  Where its last object is published already, reading the case is enough.  Everywhere
else the request goes the whole way: its checks pass as they did, the ledger recognises the
authorization, and the engine's program publishes what is missing.
-/

import Mordant.Protection.AdmissionRecovery

namespace Mordant.Protection

open Foundation Script
open Durable (returns_bind returns_throwIf returns_reads returns_lift leaves_bind_right
  returns_modify)
open Durable (Meets Returns)

section

variable {c : ParticipantCase} {disk next : CaseDisk} {role : ParticipantRole} {allow : Bool}
  {record : ParticipantAdmissionRecord} {now : ℤ}

/-! ## What a retry starts from -/

/-- A case that the engine's program can go on from: the role has published nothing, or B
everything but the manifest of the case. -/
structure Resumable (role : ParticipantRole) (disk : CaseDisk) : Prop where
  temporary : disk.temporary = false
  last : disk.objects role.lastObject = false
  place : disk.objects (.bindingSignature role) = false ∨
    role = .participantB ∧ disk.state.stage = .participantBPublished ∧
      disk.pending ≠ some (.submitting .participantB) ∧ disk.keys .participantB = true

/-- Who has signed nothing has submitted nothing. -/
theorem unpublished_of_unsigned (h : CaseInvariant c disk)
    (hunsigned : disk.objects (.bindingSignature role) = false) :
    ¬ role.PublishedIn disk.state.stage := by
  intro hpublished
  have habsent := (h.engine.signed role hunsigned).2.1
  exact absurd (habsent.symm.trans (h.engine.manifest role hpublished)) Bool.false_ne_true

/-- And it is the role's turn, if it is on record. -/
theorem expectedStage_of_unsigned (h : CaseInvariant c disk)
    (hfile : disk.files role = .complete record)
    (hunsigned : disk.objects (.bindingSignature role) = false) :
    disk.state.stage = role.expectedStage := by
  have hunpublished := unpublished_of_unsigned h hunsigned
  cases role with
  | participantA => exact not_not.mp hunpublished
  | participantB =>
      have hturn := h.records.turn hfile
      cases hstage : disk.state.stage with
      | matchPrepared => exact absurd hstage hturn
      | participantASubmitted => rfl
      | participantBPublished => exact absurd (.inl hstage) hunpublished
      | participantBSubmitted => exact absurd (.inr hstage) hunpublished

/-- The role's key is there. -/
theorem Resumable.key (hresumable : Resumable role disk) (h : CaseInvariant c disk) :
    disk.keys role = true := by
  rcases hresumable.place with hunsigned | ⟨rfl, -, -, hkey⟩
  · by_contra hgone
    have habsent := (h.engine.signed role hunsigned).2.1
    exact absurd (habsent.symm.trans (h.engine.keys role (Bool.not_eq_true _ |>.mp hgone)))
      Bool.false_ne_true
  · exact hkey

/-- Reading a case keeps it so. -/
theorem Resumable.reconciled (hresumable : Resumable role disk) (h : CaseInvariant c disk)
    (allow : Bool) : Resumable role (disk.reconciled allow) := by
  obtain ⟨-, halone⟩ := reconciled_spec h allow
  refine ⟨halone.temporary ▸ hresumable.temporary, halone.objects ▸ hresumable.last, ?_⟩
  rw [halone.objects]
  apply hresumable.place.imp_right
  rintro ⟨rfl, hstage, hpending, hkey⟩
  refine ⟨rfl, ?_⟩
  rcases @reconciled_cases c disk allow h with
    hsame | ⟨-, heq⟩ | ⟨other, hphase, -, -⟩ | ⟨-, hobject, -⟩
  · rw [hsame]
    exact ⟨hstage, hpending, hkey⟩
  · rw [heq]
    exact ⟨hstage, fun h => (nomatch h), hkey⟩
  · -- A's submission was put on record long before this stage.
    have hruns := h.engine.runs _ hphase
    cases other with
    | participantA => rcases hruns with hruns | hruns <;> exact nomatch hstage.symm.trans hruns
    | participantB => exact absurd hphase hpending
  · exact absurd (hresumable.last.symm.trans hobject) Bool.false_ne_true

/-- After reading, an operation that is pending has published nothing. -/
theorem pending_of_reconciled {phase : ProductOperationPhase}
    (hphase : (disk.reconciled true).pending = some phase) :
    (∃ role, phase = .submitting role ∧
      (disk.reconciled true).objects (.submissionManifest role) ≠ true) ∨
      phase = .finalizing ∧ (disk.reconciled true).objects .caseManifest ≠ true := by
  cases hpending : disk.pending with
  | none =>
      rw [reconciled_of_none hpending, hpending] at hphase
      cases hphase
  | some pending =>
      cases pending with
      | preparing =>
          simp [CaseDisk.reconciled, hpending, reconcileProtectionProjection] at hphase
      | submitting role =>
          by_cases hobject : disk.objects (.submissionManifest role) = true
          · rw [reconciled_submitting hpending hobject] at hphase
            cases hphase
          · rw [reconciled_of_absent (.inl ⟨role, hpending, hobject⟩)] at hphase ⊢
            obtain rfl := Option.some.inj (hpending.symm.trans hphase)
            exact .inl ⟨role, rfl, hobject⟩
      | finalizing =>
          by_cases hobject : disk.objects .caseManifest = true
          · rw [reconciled_finalizing hpending hobject] at hphase
            cases hphase
          · rw [reconciled_of_absent (.inr ⟨hpending, hobject⟩)] at hphase ⊢
            obtain rfl := Option.some.inj (hpending.symm.trans hphase)
            exact .inr ⟨rfl, hobject⟩

/-- So in the role's turn only the role's own submission can be pending. -/
theorem pending_in_turn (h : CaseInvariant c disk)
    (hstage : (disk.reconciled true).state.stage = role.expectedStage) :
    (disk.reconciled true).pending = none ∨
      (disk.reconciled true).pending = some (.submitting role) := by
  obtain ⟨hread, -⟩ := reconciled_spec h true
  cases hphase : (disk.reconciled true).pending with
  | none => exact .inl rfl
  | some phase =>
      have hruns := hread.engine.runs _ hphase
      rw [hstage] at hruns
      rcases pending_of_reconciled hphase with ⟨other, rfl, habsent⟩ | ⟨rfl, -⟩
      · cases other with
        | participantA =>
            cases role with
            | participantA => exact .inr rfl
            | participantB =>
                have hpublished : ParticipantRole.participantA.PublishedIn
                    (disk.reconciled true).state.stage := fun h => nomatch hstage.symm.trans h
                exact absurd (hread.engine.manifest _ hpublished) habsent
        | participantB =>
            cases role with
            | participantA => exact hruns.elim (fun h => nomatch h) (fun h => nomatch h)
            | participantB => exact .inr rfl
      · cases role <;> exact hruns.elim (fun h => nomatch h) (fun h => nomatch h)

/-- And once B's submission is on record and over, only the end of the case. -/
theorem pending_published (h : CaseInvariant c disk)
    (hstage : (disk.reconciled true).state.stage = .participantBPublished)
    (hopen : (disk.reconciled true).pending ≠ some (.submitting .participantB)) :
    (disk.reconciled true).pending = none ∨ (disk.reconciled true).pending = some .finalizing := by
  obtain ⟨hread, -⟩ := reconciled_spec h true
  cases hphase : (disk.reconciled true).pending with
  | none => exact .inl rfl
  | some phase =>
      have hruns := hread.engine.runs _ hphase
      rw [hstage] at hruns
      cases phase with
      | preparing => exact nomatch hruns
      | finalizing => exact .inr rfl
      | submitting role =>
          cases role with
          | participantA => exact hruns.elim (fun h => nomatch h) (fun h => nomatch h)
          | participantB => exact absurd hphase hopen

/-- Who has submitted has signed. -/
theorem signed_of_published (h : CaseInvariant c disk)
    (hpublished : role.PublishedIn disk.state.stage) :
    disk.objects (.bindingSignature role) = true := by
  by_contra hunsigned
  exact unpublished_of_unsigned h (Bool.not_eq_true _ |>.mp hunsigned) hpublished

/-! ## The engine's part -/

/-- The manifest of the case is published. -/
theorem returns_finalize {state : InternalState} (htemporary : disk.temporary = false)
    (hstage : state.stage = .participantBPublished)
    (hpending : disk.pending = none ∨ disk.pending = some .finalizing)
    (hsigned : ∀ role, disk.objects (.bindingSignature role) = true)
    (habsent : disk.objects .caseManifest = false) :
    Returns (fun _ next => next.temporary = false ∧ next.state.stage = .participantBSubmitted)
      (finalizeParticipantSubmissions state) disk := by
  have hopen : state.stage ≠ .participantBSubmitted := fun h => nomatch hstage.symm.trans h
  simp only [finalizeParticipantSubmissions, if_neg hopen, returns_bind,
    returns_throwIf]
  refine ⟨not_not.mpr hstage, returns_beginOperation hpending ?_⟩
  simp only [finalizeCase, returns_bind, returns_reads, returns_throwIf,
    pure_ok_iff, exists_eq_left', hsigned, Bool.and_self, Bool.true_eq_false, not_false_eq_true,
    true_and]
  apply returns_createObject
  case htemporary => exact htemporary
  case habsent => exact habsent
  simp only [saveState, returns_modify]
  exact returns_finishOperation rfl ⟨rfl, rfl⟩

/-- The objects of a role are published, where none of them is there. -/
theorem returns_submitParticipant {Q : Unit → CaseDisk → Prop} (htemporary : disk.temporary = false)
    (hkey : disk.keys role = true)
    (habsent : disk.objects (.bindingSignature role) = false ∧
      disk.objects (.submission role) = false ∧
      disk.objects (.submissionManifest role) = false ∧ disk.objects (.enrollment role) = false)
    (hdone : Q () ((((disk.create (.bindingSignature role)).create (.submission role)).create
      (.submissionManifest role)).create (.enrollment role))) :
    Returns Q (submitParticipant role) disk := by
  obtain ⟨hsignature, hsubmission, hmanifest, henrollment⟩ := habsent
  simp only [submitParticipant, returns_bind, returns_reads, pure_ok_iff,
    exists_eq_left', returns_throwIf, hkey, Bool.true_eq_false, not_false_eq_true, true_and]
  apply returns_createObject htemporary hsignature
  apply returns_createObject rfl (by simp [CaseDisk.create, hsubmission])
  apply returns_createObject rfl (by simp [CaseDisk.create, hmanifest])
  apply returns_createObject rfl (by simp [CaseDisk.create, henrollment])
  exact hdone

/-- Where a claim is kept and the record it is of is found to be the same, a role that is
`Resumable` submits. -/
theorem returns_submitParticipantPledge (h : CaseInvariant c disk)
    (hresumable : Resumable role disk) (hfile : disk.files role = .complete record)
    {claim : AdmittedParticipantClaim} (hclaim : disk.state.admittedClaims role = some claim)
    (henabled : assertDirectParticipantAdmissionEnabled c = .ok ())
    (hverified : assertVerifiedDurableAdmission c disk.files role claim = .ok ()) :
    Returns (fun _ next => next.temporary = false ∧ role.SubmittedIn next.state.stage)
      (submitParticipantPledge c role) disk := by
  simp only [submitParticipantPledge, returns_bind]
  apply returns_loadState hresumable.temporary
  obtain ⟨hread, halone⟩ := reconciled_spec h true
  have hresumes := hresumable.reconciled h true
  have hinturn := @pending_in_turn c disk role h
  have hpublished := pending_published h
  rw [← halone.files] at hfile hverified
  rw [← halone.claims] at hclaim
  generalize disk.reconciled true = next at *
  simp only [returns_lift, returns_reads, henabled, hclaim, hverified,
    require_ok_iff, Option.some.injEq, exists_eq_left', true_and, exists_const]
  rcases hresumes.place with hunsigned | ⟨rfl, hstage, hpending, -⟩
  · have hstage := expectedStage_of_unsigned hread hfile hunsigned
    have hunpublished := unpublished_of_unsigned hread hunsigned
    have hfirst : ¬ (role = .participantB ∧ next.state.stage = .participantBPublished) := by
      rintro ⟨rfl, hlater⟩
      exact hunpublished (.inl hlater)
    have hunsubmitted : ¬ next.state.submissions role = true :=
      fun h => hunpublished ((hread.engine.submissions role).mp h)
    rw [if_neg hfirst, if_neg hunsubmitted]
    simp only [returns_bind, returns_throwIf, hstage, ne_eq, not_true_eq_false,
      not_false_eq_true, true_and]
    apply returns_beginOperation (hinturn hstage)
    apply returns_submitParticipant
    case htemporary => exact hresumes.temporary
    case hkey => exact hresumes.key hread
    case habsent => exact ⟨hunsigned, hread.engine.signed role hunsigned⟩
    simp only [removeKey, saveState, returns_modify]
    apply returns_finishOperation rfl
    cases role with
    | participantA => exact Durable.returns_pure.mpr ⟨rfl, by rintro ⟨⟩⟩
    | participantB =>
        -- What remains is the manifest of the case, which both participants have signed for.
        have hA : next.objects (.bindingSignature .participantA) = true :=
          signed_of_published hread fun h => by cases hstage.symm.trans h
        rw [if_pos rfl]
        apply returns_finalize
        case htemporary => rfl
        case hstage => rfl
        case hpending => exact .inl rfl
        case habsent =>
          have habsent : next.objects .caseManifest = false := hresumes.last
          simpa [CaseDisk.create] using habsent
        case hsigned =>
          intro role
          cases role with
          | participantA => simp [CaseDisk.create, hA]
          | participantB => simp [CaseDisk.create]
  · rw [if_pos ⟨rfl, hstage⟩]
    apply returns_finalize hresumes.temporary hstage (hpublished hstage hpending) _ hresumes.last
    intro role
    apply signed_of_published hread
    cases role with
    | participantA =>
        intro h
        cases hstage.symm.trans h
    | participantB => exact .inl hstage

/-! ## The record and the claim -/

variable {configuration : CanonicalRecourseConfiguration} {request : AdmissionRequest}
  {window : SupervisedPledgeWindow} {stage later : ExecutionStage} {before : ℤ}
  {candidate : AdmissionCandidate} {claim : AdmittedParticipantClaim}

/-- The wallet of a struct that is parsed is the one it names. -/
theorem participantWallet_of_parsed {value : Json} {message : ParticipantAdmissionV2Message}
    (h : assertParticipantAdmissionV2Message value = .ok message) :
    value.get "participantWallet" = some (.text message.participantWallet) := by
  unfold assertParticipantAdmissionV2Message at h
  cases value with
  | null | bool _ | number _ | text _ => exact nomatch h
  | object _ | array _ =>
      simp only [bind_ok_iff, readText_ok_iff, pure_ok_iff, admissionBytes32] at h
      obtain ⟨_, -, _, -, _, -, _, -, _, -, _, -, wallet, ⟨hwallet, -⟩, _, -, _, -, _, -, _, -,
        _, -, _, -, _, -, _, -, rfl⟩ := h
      exact hwallet

/-- The wallet that makes an admitted request is the one on record. -/
theorem AdmittedBy.wallet
    (h : AdmittedBy c role request configuration window stage before record) :
    (ParticipantRequest.admission request).wallet? = some record.participantWallet.text := by
  obtain ⟨message, verdict, hchecked⟩ := admissionCandidate_ok_iff.mp h.candidate
  show (request.authorization.get "participantWallet").bind Json.asText = _
  rw [participantWallet_of_parsed hchecked.parsed, hchecked.wallet]
  rfl

/-- A claim of the record is verified again. -/
theorem assertVerifiedDurableAdmission_of_keeps (h : CaseInvariant c disk)
    (hadmitted : AdmittedBy c role request configuration window stage before record)
    (hfile : disk.files role = .complete record) (hkeeps : KeepsClaim c role record claim) :
    assertVerifiedDurableAdmission c disk.files role claim = .ok () := by
  obtain ⟨message, verdict, hchecked⟩ := admissionCandidate_ok_iff.mp hadmitted.candidate
  have hchain : record.chainId = .ofInt monadTestnetChainId := hchecked.chainId
  have hconfigured : c.loadCanonicalRecourseConfiguration = some configuration := by
    have hconfigured := hadmitted.configured
    simp only [canonicalDirectAdmissionConfiguration, bind_ok_iff, require_ok_iff] at hconfigured
    obtain ⟨_, -, _, -, hconfigured⟩ := hconfigured
    exact hconfigured
  have hholder : c.runtime.toLowerCase record.participantWallet.text =
      c.runtime.toLowerCase (configuration.holder role).text := by
    have hcanonical := hchecked.canonical
    rw [← hchecked.wallet, hadmitted.asked] at hcanonical
    exact hcanonical
  have hstrict : ∀ n : Number, n.isSafeInteger = true → n.strictEq n = true := fun n hn =>
    (Number.strictEq_iff (Number.ne_nan_of_isSafeInteger hn)).mpr rfl
  have hformed := assertAdmissionRecord_ok hadmitted.formed
  rw [hkeeps.same]
  simp only [assertVerifiedDurableAdmission, readAdmission_eq h.records, hfile,
    AdmissionFile.readJsonOrNull, bind_ok_iff, mapError_ok_iff, require_ok_iff,
    Option.some.injEq, Except.ok.injEq, exists_eq_left', AdmissionCandidate.claim, hconfigured]
  refine ⟨claim.claim, hkeeps.window, record.claimCommitment, hkeeps.commitment, ?_⟩
  apply revertIf_ok_iff.mpr
  have hchainstrict := hstrict _ hformed.chainId
  rw [hchain] at hchainstrict
  simp [hholder, hchain, hchainstrict, hstrict _ hformed.issuedAt, hstrict _ hformed.expiresAt]

/-- The disk after the claim of a role was kept. -/
def CaseDisk.keep (disk : CaseDisk) (role : ParticipantRole) (claim : AdmittedParticipantClaim) :
    CaseDisk :=
  { disk with
    state :=
      { disk.state with
        admittedClaims := Function.update disk.state.admittedClaims role (some claim) } }

theorem Resumable.keep (hresumable : Resumable role disk) (claim : AdmittedParticipantClaim) :
    Resumable role (disk.keep role claim) :=
  ⟨hresumable.temporary, hresumable.last, hresumable.place⟩

/-- Keeping the claim of a role that is `Resumable`. -/
theorem returns_admitParticipantClaim (h : CaseInvariant c disk)
    (hresumable : Resumable role disk)
    (hadmitted : AdmittedBy c role request configuration window stage before record)
    (hfile : disk.files role = .complete record) (hkeeps : KeepsClaim c role record claim) :
    Returns (fun _ next => ∃ kept, KeepsClaim c role record kept ∧
        next = (disk.reconciled true).keep role kept)
      (admitParticipantClaim c role claim) disk := by
  simp only [admitParticipantClaim, returns_bind, returns_lift, hadmitted.enabled,
    true_and, exists_const]
  apply returns_loadState hresumable.temporary
  obtain ⟨hread, halone⟩ := reconciled_spec h true
  have hresumes := hresumable.reconciled h true
  rw [← halone.files] at hfile
  generalize disk.reconciled true = next at *
  have hverified := assertVerifiedDurableAdmission_of_keeps hread hadmitted hfile hkeeps
  cases hclaim : next.state.admittedClaims role with
  | some existing =>
      obtain ⟨kept, hkept, hexisting⟩ := hread.records.claimed hclaim
      obtain rfl : record = kept := AdmissionFile.complete.inj (hfile.symm.trans hkept)
      have hmatches : ¬ (existing.authorizationDigest ≠ claim.authorizationDigest ∨
          existing.claimCommitment ≠ claim.claimCommitment ∨
          existing.participantWallet ≠ claim.participantWallet ∨
          existing.authorizationNonce ≠ claim.authorizationNonce) := by
        rw [hexisting.same, hkeeps.same]
        simp [AdmissionCandidate.claim]
      simp only [returns_bind, returns_throwIf, returns_reads, hverified,
        true_and, exists_const]
      refine ⟨hmatches, existing, hexisting, ?_⟩
      rw [CaseDisk.keep, Function.update_eq_self_iff.mpr hclaim.symm]
  | none =>
      have hunsigned : next.objects (.bindingSignature role) = false := by
        apply hresumes.place.resolve_right
        rintro ⟨rfl, hpublished, -⟩
        have hmanifest := hread.engine.manifest .participantB (.inl hpublished)
        obtain ⟨kept, hkept⟩ := hread.records.publishedClaim hmanifest
        cases hclaim.symm.trans hkept
      simp only [returns_bind, returns_throwIf, returns_reads, hverified,
        saveState, returns_modify, true_and, exists_const]
      exact ⟨not_not.mpr (expectedStage_of_unsigned hread hfile hunsigned), claim, hkeeps, rfl⟩

/-- The context of a role on record is read while its key is there. -/
theorem returns_context {Q : ParticipantAdmissionContext → CaseDisk → Prop}
    (h : CaseInvariant c disk) (htemporary : disk.temporary = false)
    (hadmitted : AdmittedBy c role request configuration window stage before record)
    (hfile : disk.files role = .complete record)
    (hkey : (disk.reconciled false).keys role = true)
    (hdone : Q (c.admissionContext role (disk.reconciled false).state.stage)
      (disk.reconciled false)) :
    Returns Q (readParticipantAdmissionContext c role) disk := by
  obtain ⟨message, verdict, hchecked⟩ := admissionCandidate_ok_iff.mp hadmitted.candidate
  obtain ⟨_, _, _, derived, -, -, -, hverified, hderived⟩ := hchecked.verified
  have hpublished : participantSigningKeyDigest c.runtime (c.signingKey role) = .ok derived :=
    hverified.published
  simp only [readParticipantAdmissionContext, returns_bind, returns_lift,
    hadmitted.enabled, true_and, exists_const]
  apply returns_loadState htemporary
  obtain ⟨hread, halone⟩ := reconciled_spec h false
  apply returns_storedAdmission hread
  rw [halone.files, hfile]
  simp only [AdmissionFile.readJsonOrNull, Option.bind_some, hderived, rawParticipantKey,
    returns_bind, returns_reads, pure_ok_iff, exists_eq_left', hkey, if_true,
    returns_lift, mapError_ok_iff, hpublished, returns_throwIf,
    Durable.returns_pure]
  exact ⟨derived, rfl, not_not.mpr rfl, hdone⟩

/-- An authorization on record is recognised, where the ledger is not locked. -/
theorem returns_admitParticipantRole (h : CaseInvariant c disk) (hlock : disk.lock = false)
    (hfile : disk.files candidate.role = .complete record)
    (hsame : SameAuthorization record candidate) :
    Returns (fun _ next => next = disk) (admitParticipantRole c candidate) disk := by
  obtain ⟨_, _, _, _, _, hadmitted⟩ := h.records.admitted hfile
  have hrecognized : recognize record candidate = .ok ⟨record, false⟩ :=
    if_pos ((sameAuthorization_iff (assertAdmissionRecord_ok hadmitted.formed)).mpr hsame)
  have hlocked : CaseInvariant c { disk with lock := true } := ⟨h.engine, h.records⟩
  simp only [admitParticipantRole, returns_bind, returns_reads, pure_ok_iff,
    exists_eq_left', returns_throwIf, hlock, Bool.false_eq_true, not_false_eq_true,
    true_and, returns_modify, Durable.returns_thenAlways]
  simp only [recordRole, returns_bind]
  apply returns_storedAdmission hlocked
  simp only [hfile, AdmissionFile.readJsonOrNull, returns_lift, mapError_ok_iff,
    hrecognized]
  exact ⟨_, rfl, by rw [← hlock]⟩

/-- The candidate of a retry: what the policy and the clock say of it is new. -/
def AdmissionCandidate.again (candidate : AdmissionCandidate) (verdict : ApassVerdict) (now : ℤ) :
    AdmissionCandidate :=
  { candidate with eligibilityBlock := verdict.observedBlock, admittedAtUnix := .ofInt now }

/-- A request that was admitted passes its checks again. -/
theorem admissionCandidate_again
    (hadmitted : AdmittedBy c role request configuration window stage before record)
    (hadmissible : StillAdmissible c record now) (later : ExecutionStage) :
    ∃ verdict, admissionCandidate c configuration request window (c.admissionContext role later)
      now = .ok (record.toAdmissionCandidate.again verdict now) := by
  obtain ⟨message, first, hchecked⟩ := admissionCandidate_ok_iff.mp hadmitted.candidate
  obtain ⟨verdict, hpolicy, heligible, hholder⟩ := hadmissible.passes
  have hissued := hadmissible.issued
  have hunexpired := hadmissible.unexpired
  rw [hchecked.issuedAt, bigIntOf_ofInt] at hissued
  rw [hchecked.expiresAt, bigIntOf_ofInt] at hunexpired
  rw [hchecked.wallet] at hpolicy hholder
  obtain ⟨fheCaseId, binding, asset, derived, hcase, hbinding, hasset, hverified, hderived⟩ :=
    hchecked.verified
  refine ⟨verdict, admissionCandidate_ok_iff.mpr ⟨message, verdict, ?_⟩⟩
  exact {
    hchecked with
    verified := ⟨fheCaseId, binding, asset, derived, hcase, hbinding, hasset,
      { hverified with issued := hissued, unexpired := hunexpired }, hderived⟩
    policy := hpolicy
    eligible := heligible
    holder := hholder
    eligibilityBlock := rfl
    admittedAtUnix := rfl }

/-! ## The whole request -/

/-- The request of a record goes the whole way, from where the role is `Resumable`. -/
theorem returns_admitParticipant (h : CaseInvariant c disk) (hresumable : Resumable role disk)
    (hadmitted : AdmittedBy c role request configuration window stage before record)
    (hfile : disk.files role = .complete record) (hlock : disk.lock = false)
    (hadmissible : StillAdmissible c record now)
    (hyoung : now - c.createdAtUnix < c.caseLifetimeSeconds) :
    Returns (fun _ next => role.SubmittedIn next.state.stage) (admitParticipant c request now)
      disk := by
  obtain rfl := hadmitted.asked
  simp only [admitParticipant, admissionAbandoned, if_pos hyoung, hadmitted.configured,
    hadmitted.claimed, returns_bind, returns_lift, returns_reads,
    returns_throwIf, Except.ok.injEq, exists_eq_left', Bool.false_eq_true,
    not_false_eq_true, true_and]
  obtain ⟨hread, halone⟩ := reconciled_spec h false
  have hresumes := hresumable.reconciled h false
  apply returns_context h hresumable.temporary hadmitted hfile (hresumes.key hread)
  rw [← halone.files] at hfile
  rw [← halone.lock] at hlock
  generalize disk.reconciled false = first at *
  apply returns_storedAdmission hread
  obtain ⟨verdict, hcandidate⟩ :=
    admissionCandidate_again hadmitted hadmissible first.state.stage
  rw [hfile]
  simp only [AdmissionFile.readJsonOrNull, Option.isNone_some, Bool.false_eq_true, false_and,
    not_false_eq_true, true_and, hcandidate, Except.ok.injEq, exists_eq_left']
  obtain ⟨message, checked, hchecked⟩ := admissionCandidate_ok_iff.mp hcandidate
  have hsame : SameAuthorization record (record.toAdmissionCandidate.again verdict now) :=
    ⟨rfl, rfl, rfl, rfl, rfl, rfl, rfl⟩
  have hnamed : (record.toAdmissionCandidate.again verdict now).role = request.role := hchecked.role
  have hrecord := returns_admitParticipantRole hread hlock (hnamed ▸ hfile) hsame
  apply hrecord.mono
  rintro _ next rfl
  have hkeeps : KeepsClaim c request.role record
      ((record.toAdmissionCandidate.again verdict now).claim window) :=
    .ofSame hadmitted.claimed hchecked hsame
  have hkept := (returns_admitParticipantClaim hread hresumes hadmitted hfile hkeeps).and
    (admitParticipantClaim_meets hread hfile hkeeps)
  apply hkept.mono
  rintro _ _ ⟨⟨claim, hclaim, rfl⟩, hinvariant, -⟩
  have hfinally : ((next.reconciled true).keep request.role claim).files request.role =
      .complete record := by
    rw [CaseDisk.keep, (reconciled_spec hread true).2.files]
    exact hfile
  have hsubmitted := (returns_submitParticipantPledge hinvariant
    ((hresumes.reconciled hread true).keep claim) hfinally (Function.update_self _ _ _)
    hadmitted.enabled
    (assertVerifiedDurableAdmission_of_keeps hinvariant hadmitted hfinally hclaim)).and
    (submitParticipantPledge_meets hinvariant)
  apply hsubmitted.mono
  rintro _ last ⟨⟨htemporary, hstage⟩, hlast⟩
  apply returns_loadState htemporary
  exact Durable.returns_pure.mpr ((reconciled_spec hlast.invariant false).2.onward _ hstage)

/-- Reading writes something where it has something to finish. -/
theorem loadState_leaves (htemporary : disk.temporary = false) (hpending : disk.pending ≠ none)
    (hdone : (disk.reconciled allow).pending = none) :
    ∃ next, (loadState allow).Leaves disk next := by
  have hreturns : Returns (fun _ next => next = disk.reconciled allow) (loadState allow) disk :=
    returns_loadState htemporary rfl
  obtain ⟨_, -, hlast⟩ := hreturns
  rcases Durable.last_eq_or_leaves (loadState allow) disk with hsame | hleaves
  · rw [← hlast, hsame] at hdone
    exact absurd hdone hpending
  · exact ⟨_, hleaves⟩

/-- Where the last object of a role is published and not on record, its request finishes. -/
theorem admitParticipant_finishes (h : CaseInvariant c disk) (htemporary : disk.temporary = false)
    (hadmitted : AdmittedBy c role request configuration window stage before record)
    (hobject : disk.objects role.lastObject = true)
    (hopen : ¬ role.SubmittedIn disk.state.stage)
    (hyoung : now - c.createdAtUnix < c.caseLifetimeSeconds) :
    role.SubmittedIn ((admitParticipant c request now).last disk).state.stage := by
  obtain ⟨hpending, hdone, hsubmitted⟩ :=
    @reconciled_of_lastObject c disk role false h hobject hopen
  obtain ⟨next, hleaves⟩ := loadState_leaves htemporary hpending hdone
  obtain rfl := hadmitted.asked
  have hleft : (admitParticipant c request now).Leaves disk next := by
    apply leaves_bind_right
    refine ⟨configuration, hadmitted.configured, ?_⟩
    apply leaves_bind_right
    refine ⟨false, if_pos hyoung, ?_⟩
    apply leaves_bind_right
    refine ⟨(), rfl, ?_⟩
    apply leaves_bind_right
    refine ⟨window, hadmitted.claimed, ?_⟩
    apply Durable.leaves_bind_left
    apply leaves_bind_right
    refine ⟨(), hadmitted.enabled, ?_⟩
    exact Durable.leaves_bind_left hleaves
  exact ((admitParticipant_meets h).last_of_leaves hleft).onward _ hsubmitted

/-- **The way.** Where a role on record can recover, the request that put it there, made again
before the case is abandoned, makes it submit. -/
theorem submitted_of_recoverable (h : CaseInvariant c disk)
    (hfile : disk.files role = .complete record) (hopen : ¬ role.SubmittedIn disk.state.stage)
    (hrecoverable : Recoverable c role record now disk)
    (hyoung : now - c.createdAtUnix < c.caseLifetimeSeconds) :
    ∃ request : ParticipantRequest, request.role? = some role ∧
      request.wallet? = some record.participantWallet.text ∧
      role.SubmittedIn ((serve c request now).last disk).state.stage := by
  obtain ⟨request, configuration, window, stage, before, hadmitted⟩ := h.records.admitted hfile
  refine ⟨.admission request, congrArg some hadmitted.asked, hadmitted.wallet, ?_⟩
  have hlast : (serve c (.admission request) now).last disk =
      (admitParticipant c request now).last disk := Durable.last_bind_pure
  rw [hlast]
  obtain ⟨htemporary, hplace⟩ := hrecoverable
  cases hobject : disk.objects role.lastObject with
  | true => exact admitParticipant_finishes h htemporary hadmitted hobject hopen hyoung
  | false =>
      obtain ⟨hlock, hadmissible, hplace⟩ :=
        hplace.resolve_left (hobject ▸ Bool.false_ne_true)
      obtain ⟨_, -, hsubmitted⟩ := returns_admitParticipant h ⟨htemporary, hobject, hplace⟩
        hadmitted hfile hlock hadmissible hyoung
      exact hsubmitted

end

/-! ## Recovery -/

namespace Sample

/-- A struct of the second version, which names the key that there is here. -/
def keyedAuthorization : Json :=
  .object (authorizationMembers "mordant.example" "a1" "PARTICIPANT_A" walletA "e3" 2000
      1784150000 ++
    [(lit "participantSigningKeyDigest",
      .text (lit "0xfe812c12f3ab4ce6ac5db69ac352f906cb1b11ef43fb33e252ef7ff552263889"))])

def keyedDigest : Hex :=
  hex "0x249cb78c487f96be3ec2db98f04a9a798f75a00df6813d388a34ff558cb36439" (by decide)

def keyedSignature : Hex :=
  hex ("0x37ef551819b782fa00e2c85f860980ebf164ce48502afc78055a80a8cf24e1d4" ++
    "178825a959b21ac328874bfd585cd57ad3368dc0857915e7d380403345bf55701c") (by decide)

/-- A case that accepts participants for 30 minutes, where the policy passes everybody. -/
def participantCase : ParticipantCase where
  runtime :=
    { directRuntime.toAuthorizationRuntime with
      hashAdmission := fun typedData =>
        if typedData.version = lit "2" then some keyedDigest
        else directRuntime.hashAdmission typedData }
  runId := directRunId
  directParticipantAdmissionEnabled := true
  runtimeAdmissionEnabled := true
  verifyingService := service
  chainId := some (.ofInt monadTestnetChainId)
  loadCanonicalRecourseConfiguration := some directConfiguration
  verifyApass := fun _ wallet => some ⟨true, wallet, .ofInt 1⟩
  verifyTypedData := fun wallet _ signature =>
    some (wallet = walletA.text && signature = keyedSignature.text)
  createdAtUnix := 1784149900
  caseLifetimeSeconds := participantCaseLifetimeSeconds
  fheCaseId := digestText "c1"
  protectionBindingDigest := digestText "c3"
  cleanverseAssetDigest := digestText "a1"
  signingKey := publishedKey

/-- A's request, signed for ten minutes. -/
def keyedRequest : AdmissionRequest where
  role := .participantA
  authorization := keyedAuthorization
  signature := .text keyedSignature.text
  claim := .object [(lit "activeFrom", .number (.ofInt 1000)),
    (lit "activeUntil", .number (.ofInt 2000))]

/-- What it leaves behind, from the lock to the end of the operation. -/
def keyedDisks : List CaseDisk :=
  (serve participantCase (.admission keyedRequest) 1784150100 (.prepared true)).disks

/-- Its process died when the ledger had been written and its lock was gone. -/
def recordedDisk : CaseDisk := keyedDisks.get ⟨3, by decide +kernel⟩

theorem recordedDisk_reached : Reached participantCase recordedDisk := by
  apply Reached.serve (.admission keyedRequest) 1784150100 (.prepared true)
  exact List.get_mem keyedDisks _

/-- At a time of the 30 minutes. -/
theorem participantCase_young {now : ℤ} (h : now < 1784151700) :
    now - participantCase.createdAtUnix < participantCase.caseLifetimeSeconds := by
  show now - 1784149900 < 30 * 60
  omega

/-- A is on record, with a window that ends when the case is 700 seconds old. -/
theorem recordedDisk_file : ∃ record, recordedDisk.files .participantA = .complete record ∧
    bigIntOf record.expiresAt = 1784150600 := by
  have hread : (recordedDisk.files .participantA).readJsonOrNull.any
      (fun record => bigIntOf record.expiresAt = 1784150600) = true := by decide +kernel
  cases hfile : recordedDisk.files .participantA with
  | absent | begun =>
      rw [hfile] at hread
      exact nomatch hread
  | complete record =>
      rw [hfile] at hread
      exact ⟨record, rfl, of_decide_eq_true hread⟩

theorem recordedDisk_open : recordedDisk.state.stage = .matchPrepared := by decide +kernel

theorem recordedDisk_unpublished :
    recordedDisk.objects ParticipantRole.participantA.lastObject = false := by
  decide +kernel

end Sample

/-- **Which admissions survive a loss.** Whatever was asked before, and wherever processes
died: at a time before the case is abandoned, a role that is on record and has not submitted
has a request that its wallet makes and that makes it submit, exactly when it is
`Recoverable`. -/
theorem admission_recoverable_iff (c : ParticipantCase) (disk : CaseDisk) (role : ParticipantRole)
    (record : ParticipantAdmissionRecord) (now : ℤ) (hreached : Reached c disk)
    (hfile : disk.files role = .complete record)
    (hopen : ¬ role.SubmittedIn disk.state.stage)
    (hyoung : now - c.createdAtUnix < c.caseLifetimeSeconds) :
    (∃ request : ParticipantRequest, request.role? = some role ∧
      request.wallet? = some record.participantWallet.text ∧
      role.SubmittedIn ((serve c request now).last disk).state.stage) ↔
      Recoverable c role record now disk := by
  constructor
  · rintro ⟨request, hrole, -, hsubmitted⟩
    by_contra hnot
    exact unsubmitted_of_not_recoverable hreached.invariant hfile hopen hnot request hrole
      hsubmitted
  · intro hrecoverable
    exact submitted_of_recoverable hreached.invariant hfile hopen hrecoverable hyoung

theorem admission_recoverable_iff_recorded :
    ∃ record, Sample.recordedDisk.files .participantA = .complete record ∧
      ((∃ request : ParticipantRequest, request.role? = some .participantA ∧
        request.wallet? = some record.participantWallet.text ∧
        ParticipantRole.participantA.SubmittedIn ((serve Sample.participantCase request
          1784150200).last Sample.recordedDisk).state.stage) ↔
      Recoverable Sample.participantCase .participantA record 1784150200 Sample.recordedDisk) := by
  obtain ⟨record, hfile, -⟩ := Sample.recordedDisk_file
  refine ⟨record, hfile, ?_⟩
  apply admission_recoverable_iff _ _ _ _ _ Sample.recordedDisk_reached hfile
  · exact not_not.mpr Sample.recordedDisk_open
  · exact Sample.participantCase_young (by omega)

/-- Ten minutes after it was signed for, and nineteen before the case is abandoned, A's
authorization admits no more, and A can get no other. -/
theorem admission_not_always_recoverable :
    ¬ ∀ (c : ParticipantCase) (disk : CaseDisk) (role : ParticipantRole)
      (record : ParticipantAdmissionRecord) (now : ℤ), Reached c disk →
      disk.files role = .complete record → ¬ role.SubmittedIn disk.state.stage →
      now - c.createdAtUnix < c.caseLifetimeSeconds →
      ∃ request : ParticipantRequest, request.role? = some role ∧
        request.wallet? = some record.participantWallet.text ∧
        role.SubmittedIn ((serve c request now).last disk).state.stage := by
  intro hclaim
  obtain ⟨record, hfile, hexpires⟩ := Sample.recordedDisk_file
  have hopen : ¬ ParticipantRole.participantA.SubmittedIn Sample.recordedDisk.state.stage :=
    not_not.mpr Sample.recordedDisk_open
  obtain ⟨request, hrole, -, hsubmitted⟩ := hclaim Sample.participantCase Sample.recordedDisk
    .participantA record 1784150601 Sample.recordedDisk_reached hfile hopen
    (Sample.participantCase_young (by omega))
  refine unsubmitted_of_not_recoverable Sample.recordedDisk_reached.invariant hfile hopen ?_
    request hrole hsubmitted
  rintro ⟨-, hpublished | ⟨-, hadmissible, -⟩⟩
  · rw [Sample.recordedDisk_unpublished] at hpublished
    exact Bool.false_ne_true hpublished
  · have hunexpired := hadmissible.unexpired
    rw [hexpires] at hunexpired
    omega

end Mordant.Protection
