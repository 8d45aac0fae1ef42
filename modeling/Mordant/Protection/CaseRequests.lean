/-
# What a request can leave behind

Each part of a request has one lemma, which says what holds of every disk its process can
leave and what is known where it returns.  Together they say that no request breaks the
invariant of a case and that no submission is ever lost, whenever the process dies.
-/

import Mordant.Protection.CaseInvariant

namespace Mordant.Protection

open Foundation Script
open Durable (meets_bind meets_reads meets_throwIf meets_lift meets_modify returns_reads
  returns_bind meets_pure)
open Durable (Meets Returns)
open Function (update)

/-! ## The engine's part -/

section

variable {c : ParticipantCase} {disk : CaseDisk} {I : CaseDisk → Prop} {Q : Unit → CaseDisk → Prop}
  {phase : ProductOperationPhase} {binary : String} {object : PublicObject} {role : ParticipantRole}

/-- An operation that was pending already is as if it began now. -/
theorem meets_beginOperation
    (h : disk.pending = none ∨ disk.pending = some phase →
      I { disk with pending := some phase } ∧ Q () { disk with pending := some phase }) :
    Meets I Q (beginOperation phase) disk := by
  obtain ⟨lock, files, state, pending, keys, temporary, objects⟩ := disk
  simp only [beginOperation, meets_bind, meets_reads, pure_ok_iff, forall_eq']
  cases pending with
  | none => exact Durable.meets_modify.mpr (h (.inl rfl))
  | some pending =>
      apply Durable.meets_throwIf.mpr
      intro hphase
      obtain rfl : pending = phase := not_not.mp hphase
      exact (h (.inr rfl)).2

theorem returns_beginOperation (hpending : disk.pending = none ∨ disk.pending = some phase)
    (h : Q () { disk with pending := some phase }) : Returns Q (beginOperation phase) disk := by
  obtain ⟨lock, files, state, pending, keys, temporary, objects⟩ := disk
  simp only [beginOperation, returns_bind, returns_reads, pure_ok_iff,
    exists_eq_left']
  rcases hpending with hpending | hpending
  · obtain rfl : pending = none := hpending
    exact Durable.returns_modify.mpr h
  · obtain rfl : pending = some phase := hpending
    exact Durable.returns_throwIf.mpr ⟨not_not.mpr rfl, h⟩

theorem meets_finishOperation
    (h : disk.pending = some phase →
      I { disk with pending := none } ∧ Q () { disk with pending := none }) :
    Meets I Q (finishOperation phase) disk := by
  simp only [finishOperation, meets_bind, meets_reads, pure_ok_iff, forall_eq',
    meets_throwIf, meets_modify]
  exact fun hphase => h (not_not.mp hphase)

theorem returns_finishOperation (hpending : disk.pending = some phase)
    (h : Q () { disk with pending := none }) : Returns Q (finishOperation phase) disk := by
  simp only [finishOperation, returns_bind, returns_reads, pure_ok_iff,
    exists_eq_left', Durable.returns_throwIf, Durable.returns_modify]
  exact ⟨not_not.mpr hpending, h⟩

/-- The disk after an object was created. -/
def CaseDisk.create (disk : CaseDisk) (object : PublicObject) : CaseDisk :=
  { disk with temporary := false, objects := update disk.objects object true }

theorem meets_createObject
    (h : disk.temporary = false → disk.objects object = false →
      I { disk with temporary := true } ∧ I { disk.create object with temporary := true } ∧
        I (disk.create object) ∧ Q () (disk.create object)) :
    Meets I Q (createObject binary object) disk := by
  simp only [createObject, meets_bind, meets_reads, pure_ok_iff, forall_eq',
    meets_throwIf, meets_modify, not_or, Bool.not_eq_true]
  rintro ⟨htemporary, habsent⟩
  exact h htemporary habsent

theorem returns_createObject (htemporary : disk.temporary = false)
    (habsent : disk.objects object = false) (h : Q () (disk.create object)) :
    Returns Q (createObject binary object) disk := by
  simp only [createObject, returns_bind, returns_reads, pure_ok_iff,
    exists_eq_left', Durable.returns_throwIf, Durable.returns_modify, not_or, Bool.not_eq_true]
  exact ⟨⟨htemporary, habsent⟩, h⟩

/-- What publishing leaves alone. -/
structure Publishes (disk next : CaseDisk) : Prop where
  files : next.files = disk.files
  state : next.state = disk.state
  pending : next.pending = disk.pending
  keys : next.keys = disk.keys

theorem Publishes.trans {next last : CaseDisk} (h : Publishes disk next)
    (h' : Publishes next last) : Publishes disk last :=
  ⟨h'.files.trans h.files, h'.state.trans h.state, h'.pending.trans h.pending,
    h'.keys.trans h.keys⟩

theorem Publishes.create (disk : CaseDisk) (object : PublicObject) :
    Publishes disk (disk.create object) := ⟨rfl, rfl, rfl, rfl⟩

/-- An object created in its turn. -/
theorem createObject_meets (binary : String) (object : PublicObject) (h : CaseInvariant c disk)
    (hsigned : ∀ role, object = .submission role ∨ object = .submissionManifest role ∨
      object = .enrollment role → disk.objects (.bindingSignature role) = true)
    (hmanifest : ∀ role, object = .submissionManifest role →
      disk.pending = some (.submitting role))
    (hcase : object = .caseManifest → disk.pending = some .finalizing)
    (hclaim : object = .submissionManifest .participantB →
      ∃ claim, disk.state.admittedClaims .participantB = some claim) :
    Meets (fun next => CaseInvariant c next ∧ Publishes disk next)
      (fun _ next => CaseInvariant c next ∧ next = disk.create object)
      (createObject binary object) disk := by
  apply meets_createObject
  intro _ _
  have hengine := h.engine.create hsigned hmanifest hcase
  have hrecords := h.records.create hclaim
  exact ⟨⟨⟨h.engine, h.records⟩, rfl, rfl, rfl, rfl⟩,
    ⟨⟨hengine, hrecords⟩, rfl, rfl, rfl, rfl⟩, ⟨⟨hengine, hrecords⟩, rfl, rfl, rfl, rfl⟩,
    ⟨hengine, hrecords⟩, rfl⟩

/-- The objects of a role, while its submission is pending. -/
theorem submitParticipant_meets (h : CaseInvariant c disk)
    (hpending : disk.pending = some (.submitting role))
    (hclaim : ∃ claim, disk.state.admittedClaims role = some claim) :
    Meets (fun next => CaseInvariant c next ∧ Publishes disk next)
      (fun _ next => CaseInvariant c next ∧ Publishes disk next ∧
        next.objects (.submissionManifest role) = true)
      (submitParticipant role) disk := by
  simp only [submitParticipant, meets_bind, meets_reads, pure_ok_iff, forall_eq',
    meets_throwIf]
  intro _
  have hfirst := createObject_meets "client" (.bindingSignature role) h
    (by simp) (by simp) (by simp) (by simp)
  apply hfirst.mono (fun _ h => h)
  rintro _ _ ⟨h₁, rfl⟩
  have hkept₁ := Publishes.create disk (.bindingSignature role)
  have hsecond := createObject_meets "client" (.submission role) h₁
    (by rintro _ (⟨⟩ | h | h) <;> simp_all [CaseDisk.create]) (by simp) (by simp) (by simp)
  apply hsecond.mono (fun _ h => ⟨h.1, hkept₁.trans h.2⟩)
  rintro _ _ ⟨h₂, rfl⟩
  have hkept₂ := hkept₁.trans (Publishes.create _ (.submission role))
  have hthird := createObject_meets "client" (.submissionManifest role) h₂
    (by rintro _ (h | ⟨⟨⟩⟩ | h) <;> simp_all [CaseDisk.create])
    (by rintro _ ⟨⟩; exact hpending) (by simp) (by rintro ⟨⟩; exact hclaim)
  apply hthird.mono (fun _ h => ⟨h.1, hkept₂.trans h.2⟩)
  rintro _ _ ⟨h₃, rfl⟩
  have hkept₃ := hkept₂.trans (Publishes.create _ (.submissionManifest role))
  have hfourth := createObject_meets "client" (.enrollment role) h₃
    (by rintro _ (h | h | ⟨⟨⟩⟩) <;> simp_all [CaseDisk.create]) (by simp) (by simp) (by simp)
  apply hfourth.mono (fun _ h => ⟨h.1, hkept₃.trans h.2⟩)
  rintro _ _ ⟨h₄, rfl⟩
  exact ⟨h₄, hkept₃.trans (Publishes.create _ _), by simp [CaseDisk.create]⟩

/-- The invariant holds, and nobody's submission was lost. -/
structure Continues (c : ParticipantCase) (disk next : CaseDisk) : Prop where
  invariant : CaseInvariant c next
  onward : Onward disk.state.stage next.state.stage

theorem Continues.trans {next last : CaseDisk} (h : Continues c disk next)
    (h' : Continues c next last) : Continues c disk last :=
  ⟨h'.invariant, h.onward.trans h'.onward⟩

theorem Continues.ofState {next : CaseDisk} (h : CaseInvariant c next)
    (hstate : next.state = disk.state) : Continues c disk next :=
  ⟨h, hstate ▸ .refl _⟩

/-- Both claims are in. -/
theorem finalize_meets (h : CaseInvariant c disk) :
    Meets (Continues c disk) (fun _ => Continues c disk)
      (finalizeParticipantSubmissions disk.state) disk := by
  unfold finalizeParticipantSubmissions
  split
  · exact Durable.meets_pure.mpr ⟨h, .refl _⟩
  · simp only [meets_bind, meets_throwIf, not_not]
    intro hstage
    apply meets_beginOperation
    intro hpending
    have hbegun : EngineInvariant disk.state (some .finalizing) disk.keys disk.objects := by
      rcases hpending with hpending | hpending
      · exact (hpending ▸ h.engine).begin (.inl hstage)
      · exact hpending ▸ h.engine
    have hstart : CaseInvariant c { disk with pending := some .finalizing } := ⟨hbegun, h.records⟩
    refine ⟨⟨hstart, .refl _⟩, ?_⟩
    simp only [finalizeCase, meets_bind, meets_reads, pure_ok_iff, forall_eq',
      meets_throwIf]
    intro _
    have hcreate := createObject_meets "keygen" .caseManifest hstart
      (by simp) (by simp) (fun _ => rfl) (by simp)
    apply hcreate.mono (fun _ h => .ofState h.1 h.2.state)
    rintro _ _ ⟨hcreated, rfl⟩
    have hfinal := hcreated.engine.finalize (by simp [CaseDisk.create])
    have hrecords : RecordInvariant c disk.files
        { disk.state with stage := .participantBSubmitted } _ :=
      hcreated.records.advance rfl (by rintro _ ⟨⟩)
    simp only [saveState, meets_modify]
    refine ⟨⟨⟨hfinal, hrecords⟩, onward_submitted _⟩, meets_finishOperation fun _ => ?_⟩
    have hdone := hfinal.finish (by rintro _ ⟨⟩) (fun _ => rfl)
    exact ⟨⟨⟨hdone, hrecords⟩, onward_submitted _⟩, ⟨hdone, hrecords⟩, onward_submitted _⟩

/-- Submitting a claim, after reading the case. -/
theorem submitParticipantPledge_meets (h : CaseInvariant c disk) :
    Meets (Continues c disk) (fun _ => Continues c disk) (submitParticipantPledge c role) disk := by
  simp only [submitParticipantPledge, meets_bind]
  apply (loadState_meets h).mono (fun _ h => ⟨h.invariant, h.alone.onward⟩)
  rintro _ next ⟨rfl, rfl⟩
  obtain ⟨hread, halone⟩ := reconciled_spec h true
  generalize disk.reconciled true = next at hread halone ⊢
  have hstart : Continues c disk next := ⟨hread, halone.onward⟩
  simp only [meets_lift, meets_reads, require_ok_iff]
  intro _ _ claim hclaim _ _
  split
  · exact (finalize_meets hread).mono (fun _ => hstart.trans) (fun _ _ => hstart.trans)
  split
  · exact Durable.meets_pure.mpr hstart
  simp only [meets_bind, meets_throwIf, not_not]
  intro hstage
  apply meets_beginOperation
  intro hpending
  have hbegun : EngineInvariant next.state (some (.submitting role)) next.keys next.objects := by
    rcases hpending with hpending | hpending
    · exact (hpending ▸ hread.engine).begin (.inl hstage)
    · exact hpending ▸ hread.engine
  have hinvariant : CaseInvariant c { next with pending := some (.submitting role) } :=
    ⟨hbegun, hread.records⟩
  refine ⟨⟨hinvariant, halone.onward⟩, ?_⟩
  apply (submitParticipant_meets hinvariant rfl ⟨claim, hclaim⟩).mono
    (fun _ h => hstart.trans (.ofState h.1 h.2.state))
  rintro _ last ⟨hlast, hkept, hobject⟩
  obtain ⟨lock, files, state, pending, keys, temporary, objects⟩ := last
  obtain ⟨rfl, rfl, rfl, rfl⟩ := hkept
  have hremoved := hlast.engine.removeKey hobject
  have hpublished := hremoved.publish hobject
  have honward := hstart.onward.trans (onward_publish (hlast.engine.runs _ rfl))
  have hrecords : RecordInvariant c next.files (next.state.publish role) objects :=
    hlast.records.advance rfl (by cases role <;> rintro _ ⟨⟩)
  have hfinished := hpublished.finish (by
    rintro _ ⟨⟩
    cases role with
    | participantA => rintro ⟨⟩
    | participantB => exact .inl rfl) (by rintro ⟨⟩)
  have hdone : Continues c disk
      { lock := lock
        files := next.files
        state := next.state.publish role
        pending := none
        keys := update next.keys role false
        temporary := temporary
        objects := objects } := ⟨⟨hfinished, hrecords⟩, honward⟩
  simp only [removeKey, saveState, meets_modify]
  refine ⟨⟨⟨hremoved, hlast.records⟩, hstart.onward⟩, ⟨⟨hpublished, hrecords⟩, honward⟩, ?_⟩
  apply meets_finishOperation
  intro _
  refine ⟨hdone, ?_⟩
  split
  · exact (finalize_meets hdone.invariant).mono (fun _ => hdone.trans) (fun _ _ => hdone.trans)
  · exact Durable.meets_pure.mpr hdone

end

/-! ## What was checked of a request -/

section

variable {c : ParticipantCase} {configuration : CanonicalRecourseConfiguration}
  {request : AdmissionRequest} {window : SupervisedPledgeWindow}
  {context : ParticipantAdmissionContext} {now : ℤ} {candidate : AdmissionCandidate}

/-- What is known of a request whose record is asked for. -/
structure AdmissionChecked (c : ParticipantCase) (configuration : CanonicalRecourseConfiguration)
    (request : AdmissionRequest) (window : SupervisedPledgeWindow)
    (context : ParticipantAdmissionContext) (now : ℤ) (message : ParticipantAdmissionV2Message)
    (verdict : ApassVerdict) (candidate : AdmissionCandidate) : Prop where
  parsed : assertParticipantAdmissionV2Message request.authorization = .ok message
  verified : ∃ fheCaseId binding asset derived,
    digestToBytes32 context.fheCaseId = .ok fheCaseId ∧
    digestToBytes32 context.protectionBindingDigest = .ok binding ∧
    digestToBytes32 context.assetIdentityDigest = .ok asset ∧
    AdmissionVerifies c.runtime message request.signature
      { verifyingService := c.verifyingService
        runId := c.runId
        fheCaseId := fheCaseId
        protectionBindingDigest := binding
        assetIdentityDigest := asset
        role := request.role
        participantSigningKeyBase64 := context.participantSigningKey
        activeFrom := window.activeFrom
        activeUntil := window.activeUntil
        chainId := .ofInt monadTestnetChainId
        now := now } c.verifyTypedData derived ∧
    candidate.participantSigningKeyDigest = some derived
  digest : c.runtime.hashAdmission
    (participantAdmissionV2TypedData c.runtime message (.ofInt monadTestnetChainId)) =
      some candidate.authorizationDigest
  commitment : participantClaimCommitment c.runtime c.runId message.role window.activeFrom
    window.activeUntil = .ok candidate.claimCommitment
  canonical : c.runtime.toLowerCase message.participantWallet =
    c.runtime.toLowerCase (configuration.holder request.role).text
  policy : c.verifyApass now message.participantWallet = some verdict
  eligible : verdict.eligible = true
  holder : c.runtime.toLowerCase verdict.holderAddress =
    c.runtime.toLowerCase message.participantWallet
  wallet : candidate.participantWallet.text = message.participantWallet
  nonce : candidate.authorizationNonce.text = message.authorizationNonce
  signature : ∃ signature, candidate.signature = some signature ∧
    request.signature.asText = some signature.text
  runId : candidate.runId = c.runId
  role : candidate.role = request.role
  authorization : candidate.authorization = some request.authorization
  chainId : candidate.chainId = .ofInt monadTestnetChainId
  issuedAt : candidate.issuedAt = .ofInt message.issuedAt
  expiresAt : candidate.expiresAt = .ofInt message.expiresAt
  eligibilityBlock : candidate.eligibilityBlock = verdict.observedBlock
  admittedAtUnix : candidate.admittedAtUnix = .ofInt now

theorem hexOf?_eq_some_iff {text : Text} {value : Hex} :
    hexOf? text = some value ↔ value.text = text := by
  unfold hexOf?
  constructor
  · intro h
    split at h
    · rw [← Option.some.inj h]
    · cases h
  · rintro rfl
    exact dif_pos value.prefixed

/-- The record that is asked for is that of a request that passed every check. -/
theorem admissionCandidate_ok_iff :
    admissionCandidate c configuration request window context now = .ok candidate ↔
      ∃ message verdict,
        AdmissionChecked c configuration request window context now message verdict candidate := by
  simp only [admissionCandidate, assertCanonicalParticipantWallet, bind_ok_iff, mapError_ok_iff,
    require_ok_iff, revertIf_ok_iff, pure_ok_iff, exists_const, not_not, Bool.not_eq_false,
    verifyParticipantAdmissionV2_ok_iff, hexOf?_eq_some_iff, Option.bind_eq_some_iff]
  constructor
  · rintro ⟨message, hparsed, fheCaseId, hcase, binding, hbinding, asset, hasset, derived,
      hverified,
      digest, hdigest, commitment, hcommitment, _, ⟨hcanonical, -⟩, verdict, hpolicy, heligible,
      hholder, wallet, hwallet, nonce, hnonce, signature, ⟨_, hsignature, rfl⟩, rfl⟩
    exact ⟨message, verdict, {
      parsed := hparsed
      verified := ⟨fheCaseId, binding, asset, derived, hcase, hbinding, hasset, hverified, rfl⟩
      digest := hdigest
      commitment := hcommitment
      canonical := hcanonical
      policy := hpolicy
      eligible := heligible
      holder := hholder
      wallet := hwallet
      nonce := hnonce
      signature := ⟨signature, rfl, hsignature⟩
      runId := rfl
      role := rfl
      authorization := rfl
      chainId := rfl
      issuedAt := rfl
      expiresAt := rfl
      eligibilityBlock := rfl
      admittedAtUnix := rfl }⟩
  · rintro ⟨message, verdict, h⟩
    obtain ⟨fheCaseId, binding, asset, derived, hcase, hbinding, hasset, hverified, hkey⟩ :=
      h.verified
    obtain ⟨signature, hsigned, hsignature⟩ := h.signature
    refine ⟨message, h.parsed, fheCaseId, hcase, binding, hbinding, asset, hasset, derived,
      hverified, _, h.digest, _, h.commitment, _, ⟨h.canonical, rfl⟩, verdict, h.policy, h.eligible,
      h.holder, _, h.wallet, _, h.nonce, signature, ⟨_, hsignature, rfl⟩, ?_⟩
    rw [← h.runId, ← h.authorization, ← hsigned, ← h.role, ← h.chainId, ← h.issuedAt,
      ← h.expiresAt, ← hkey, ← h.eligibilityBlock, ← h.admittedAtUnix]

theorem exactInstant_ok {value : Option Json} {code label : String} {instant : ℤ}
    (h : exactInstant value code label = .ok instant) :
    value = some (.number (.ofInt instant)) := by
  unfold exactInstant at h
  split at h
  · rename_i n
    simp only [revertIf_bind_ok_iff, Bool.not_eq_false, pure_ok_iff] at h
    obtain ⟨-, hsafe, -, -, rfl⟩ := h
    rw [ofInt_bigIntOf hsafe]
  · cases h

/-- A window that was accepted is accepted when it is read again. -/
theorem assertSupervisedPledgeWindow_json {value : Json} {role : ParticipantRole}
    {window : SupervisedPledgeWindow} (h : assertSupervisedPledgeWindow value role = .ok window) :
    assertSupervisedPledgeWindow window.json role = .ok window := by
  simp only [assertSupervisedPledgeWindow, bind_ok_iff, revertIf_ok_iff, exists_const,
    pure_ok_iff] at h ⊢
  obtain ⟨-, activeFrom, hfrom, activeUntil, huntil, horder, rfl⟩ := h
  have hkeys : (SupervisedPledgeWindow.json ⟨activeFrom, activeUntil⟩).hasExactKeys
      ["activeFrom", "activeUntil"] = true :=
    List.isPerm_iff.mpr (List.Perm.refl _)
  have hwas := exactInstant_ok hfrom
  have hwas' := exactInstant_ok huntil
  rw [hwas] at hfrom
  rw [hwas'] at huntil
  refine ⟨?_, activeFrom, hfrom, activeUntil, huntil, horder, rfl⟩
  rintro (h | h)
  · cases h
  · exact absurd (hkeys.symm.trans h) Bool.true_eq_false.mp

/-! ## The ledger's part -/

variable {disk : CaseDisk} {role : ParticipantRole} {record : ParticipantAdmissionRecord}

/-- What the ledger leaves alone. -/
structure Records (disk next : CaseDisk) : Prop where
  state : next.state = disk.state
  pending : next.pending = disk.pending
  keys : next.keys = disk.keys
  temporary : next.temporary = disk.temporary
  objects : next.objects = disk.objects

/-- What the ledger's files hold of a role is read. -/
theorem readAdmission_eq (h : RecordInvariant c disk.files disk.state disk.objects)
    (role : ParticipantRole) :
    readAdmission disk.files c.runId role = .ok (disk.files role).readJsonOrNull := by
  cases hfile : disk.files role with
  | absent => simp only [readAdmission, hfile, AdmissionFile.readJsonOrNull]; rfl
  | begun => simp only [readAdmission, hfile, AdmissionFile.readJsonOrNull]; rfl
  | complete record =>
      obtain ⟨_, _, _, _, _, hadmitted⟩ := h.admitted hfile
      simp only [readAdmission, hfile, AdmissionFile.readJsonOrNull]
      exact bind_ok_iff.mpr ⟨(), hadmitted.formed, rfl⟩

theorem meets_storedAdmission {I : CaseDisk → Prop}
    {Q : Option ParticipantAdmissionRecord → CaseDisk → Prop} (h : CaseInvariant c disk)
    (hdone : Q (disk.files role).readJsonOrNull disk) :
    Meets I Q (storedAdmission c role) disk := by
  simp only [storedAdmission, meets_reads, readAdmission_eq h.records, mapError_ok_iff,
    Except.ok.injEq, forall_eq']
  exact hdone

theorem returns_storedAdmission {Q : Option ParticipantAdmissionRecord → CaseDisk → Prop}
    (h : CaseInvariant c disk) (hdone : Q (disk.files role).readJsonOrNull disk) :
    Returns Q (storedAdmission c role) disk := by
  simp only [storedAdmission, returns_reads, readAdmission_eq h.records, mapError_ok_iff,
    Except.ok.injEq, exists_eq_left']
  exact hdone

/-- A recognised authorization is the one on record. -/
theorem recognize_same {existing : ParticipantAdmissionRecord} {outcome : AdmissionOutcome}
    (hformed : assertAdmissionRecord existing c.runId role = .ok ())
    (h : recognize existing candidate = .ok outcome) : SameAuthorization existing candidate :=
  (sameAuthorization_iff (assertAdmissionRecord_ok hformed)).mp (recognize_ok h).1

/-- What the ledger's part ends with: a record of the role, with this authorization, that was
there before or was asked for now. -/
structure Recorded (candidate : AdmissionCandidate) (disk next : CaseDisk)
    (record : ParticipantAdmissionRecord) : Prop where
  alone : Records disk next
  file : next.files candidate.role = .complete record
  same : SameAuthorization record candidate
  kept : ∀ before, disk.files candidate.role = .complete before → before = record

/-- What the ledger's part needs, so that a record that is written is that of an admitted
request. -/
structure Recordable (c : ParticipantCase) (disk : CaseDisk) (candidate : AdmissionCandidate) :
    Prop where
  run : candidate.runId = c.runId
  turn : disk.files candidate.role = .absent → candidate.role = .participantB →
    disk.state.stage ≠ .matchPrepared
  admits : ∀ record : ParticipantAdmissionRecord, record.toAdmissionCandidate = candidate →
    assertAdmissionRecord record c.runId candidate.role = .ok () →
    ∃ request configuration window stage now,
      AdmittedBy c candidate.role request configuration window stage now record

theorem recordRole_meets (h : CaseInvariant c disk) (hrecordable : Recordable c disk candidate) :
    Meets (fun next => CaseInvariant c next ∧ Records disk next)
      (fun _ next => CaseInvariant c next ∧ ∃ record, Recorded candidate disk next record)
      (recordRole c candidate) disk := by
  simp only [recordRole, meets_bind]
  apply meets_storedAdmission h
  cases hfile : disk.files candidate.role with
  | complete existing =>
      simp only [AdmissionFile.readJsonOrNull, meets_lift, mapError_ok_iff]
      intro outcome houtcome
      obtain ⟨_, _, _, _, _, hadmitted⟩ := h.records.admitted hfile
      refine ⟨h, existing, ⟨rfl, rfl, rfl, rfl, rfl⟩, hfile,
        recognize_same hadmitted.formed houtcome, ?_⟩
      intro before hbefore
      exact AdmissionFile.complete.inj (hbefore.symm.trans hfile)
  | begun =>
      simp only [AdmissionFile.readJsonOrNull, meets_bind]
      apply meets_storedAdmission h
      simp only [meets_lift, meets_reads, pure_ok_iff, forall_eq', hfile]
      intro _ _
      rw [meets_bind]
      apply meets_storedAdmission h
      rw [hfile]
      exact Durable.meets_lift.mpr (by rintro _ ⟨⟩)
  | absent =>
      simp only [AdmissionFile.readJsonOrNull, meets_bind]
      apply meets_storedAdmission h
      simp only [meets_lift, meets_reads, pure_ok_iff, forall_eq', hfile,
        meets_bind, meets_modify, meets_pure, mapError_ok_iff]
      intro record hrecord
      obtain ⟨hcandidate, hformed, -⟩ := prepareRecord_ok hrecord
      rw [hrecordable.run] at hformed
      have hvacant : ∀ record, disk.files candidate.role ≠ .complete record := by
        intro other hother
        cases hfile.symm.trans hother
      have hbegun : RecordInvariant c (update disk.files candidate.role .begun) disk.state
          disk.objects := h.records.write hvacant (by rintro _ ⟨⟩)
      have hwritten : RecordInvariant c
          (update disk.files candidate.role (.complete record)) disk.state
          disk.objects := by
        apply h.records.write hvacant
        rintro _ ⟨⟩
        exact ⟨hrecordable.admits record hcandidate hformed, hrecordable.turn hfile⟩
      have hsame : SameAuthorization record candidate := by
        subst hcandidate
        exact ⟨rfl, rfl, rfl, rfl, rfl, rfl, rfl⟩
      simp only [Function.update_idem]
      refine ⟨⟨⟨h.engine, hbegun⟩, rfl, rfl, rfl, rfl, rfl⟩,
        ⟨⟨h.engine, hwritten⟩, rfl, rfl, rfl, rfl, rfl⟩, ⟨h.engine, hwritten⟩, record,
        ⟨rfl, rfl, rfl, rfl, rfl⟩, Function.update_self _ _ _, hsame, ?_⟩
      intro before hbefore
      exact absurd hbefore (hvacant before)

/-- The whole of the ledger's part, with its lock. -/
theorem admitParticipantRole_meets (h : CaseInvariant c disk)
    (hrecordable : Recordable c disk candidate) :
    Meets (fun next => CaseInvariant c next ∧ Records disk next)
      (fun _ next => CaseInvariant c next ∧ disk.lock = false ∧
        ∃ record, Recorded candidate disk next record)
      (admitParticipantRole c candidate) disk := by
  simp only [admitParticipantRole, meets_bind, meets_reads, pure_ok_iff, forall_eq',
    meets_throwIf, meets_modify, Bool.not_eq_true]
  intro hlock
  have hlocked : CaseInvariant c { disk with lock := true } := ⟨h.engine, h.records⟩
  refine ⟨⟨hlocked, rfl, rfl, rfl, rfl, rfl⟩, ?_⟩
  apply Durable.Meets.thenAlways
  · apply (recordRole_meets hlocked ⟨hrecordable.run, hrecordable.turn, hrecordable.admits⟩).mono
    · rintro next ⟨hnext, halone⟩
      exact ⟨⟨hnext, ⟨halone.state, halone.pending, halone.keys, halone.temporary, halone.objects⟩⟩,
        ⟨hnext.engine, hnext.records⟩, halone.state, halone.pending, halone.keys,
        halone.temporary, halone.objects⟩
    · rintro _ next ⟨hnext, record, hrecorded⟩
      obtain ⟨halone, hfile, hsame, hkept⟩ := hrecorded
      exact ⟨⟨hnext.engine, hnext.records⟩, hlock, record,
        ⟨halone.state, halone.pending, halone.keys, halone.temporary, halone.objects⟩, hfile, hsame,
        hkept⟩
  · exact ⟨⟨h.engine, h.records⟩, rfl, rfl, rfl, rfl, rfl⟩

/-! ## The rest of a request -/

/-- A context is there only with the role's key. -/
theorem rawParticipantKey_meets {I : CaseDisk → Prop} {admitted : Option Hex} :
    Meets I (fun key next => next = disk ∧ disk.keys role = true ∧ key = c.signingKey role)
      (rawParticipantKey c role admitted) disk := by
  simp only [rawParticipantKey, meets_bind, meets_reads, pure_ok_iff, forall_eq']
  by_cases hkey : disk.keys role = true
  · rw [if_pos hkey]
    cases admitted with
    | none => exact Durable.meets_pure.mpr ⟨rfl, hkey, rfl⟩
    | some digest =>
        simp only [meets_bind, meets_lift, meets_throwIf,
          meets_pure]
        exact fun _ _ _ => ⟨trivial, hkey, trivial⟩
  · rw [if_neg hkey]
    cases admitted <;> exact Durable.meets_lift.mpr (by rintro _ ⟨⟩)

theorem context_meets (h : CaseInvariant c disk) :
    Meets (Reads c false disk)
      (fun context next => assertDirectParticipantAdmissionEnabled c = .ok () ∧
        next = disk.reconciled false ∧ next.keys role = true ∧
        context = c.admissionContext role next.state.stage)
      (readParticipantAdmissionContext c role) disk := by
  simp only [readParticipantAdmissionContext, meets_bind, meets_lift]
  intro _ henabled
  apply (loadState_meets h).mono (fun _ h => h)
  rintro _ next ⟨rfl, rfl⟩
  obtain ⟨hread, -⟩ := reconciled_spec h false
  apply meets_storedAdmission hread
  apply rawParticipantKey_meets.mono (fun _ h => h)
  rintro _ _ ⟨rfl, hkey, rfl⟩
  exact Durable.meets_pure.mpr ⟨henabled, rfl, hkey, rfl⟩

/-- What keeping a claim leaves alone: everything but the claims and what reading does. -/
structure Keeps (disk next : CaseDisk) : Prop where
  objects : next.objects = disk.objects
  stage : next.state.stage = (disk.reconciled true).state.stage
  pending : next.pending = (disk.reconciled true).pending
  onward : Onward disk.state.stage next.state.stage

/-- Keeping the claim of a record. -/
theorem admitParticipantClaim_meets {admission : AdmittedParticipantClaim}
    (h : CaseInvariant c disk) (hrecord : disk.files role = .complete record)
    (hkeeps : KeepsClaim c role record admission) :
    Meets (fun next => CaseInvariant c next ∧ next.objects = disk.objects ∧
        Onward disk.state.stage next.state.stage)
      (fun _ next => CaseInvariant c next ∧ Keeps disk next)
      (admitParticipantClaim c role admission) disk := by
  simp only [admitParticipantClaim, meets_bind, meets_lift]
  intro _ _
  apply (loadState_meets h).mono
    (fun _ h => ⟨h.invariant, h.alone.objects, h.alone.onward⟩)
  rintro _ next ⟨rfl, rfl⟩
  obtain ⟨hread, halone⟩ := reconciled_spec h true
  cases hclaim : (disk.reconciled true).state.admittedClaims role with
  | some existing =>
      simp only [meets_bind, meets_throwIf, meets_reads]
      exact fun _ _ _ => ⟨hread, halone.objects, rfl, rfl, halone.onward⟩
  | none =>
      simp only [meets_bind, meets_throwIf, meets_reads, saveState,
        meets_modify]
      intro _ _ _
      have hfile : (disk.reconciled true).files role = .complete record := by
        rw [halone.files]
        exact hrecord
      have hkept := hread.records.keep hfile hkeeps
      exact ⟨⟨⟨⟨hread.engine.submissions, hread.engine.runs, hread.engine.manifest,
        hread.engine.publishing, hread.engine.finalized, hread.engine.finalizing,
        hread.engine.signed, hread.engine.keys⟩, hkept⟩, halone.objects, halone.onward⟩,
        ⟨⟨hread.engine.submissions, hread.engine.runs, hread.engine.manifest,
        hread.engine.publishing, hread.engine.finalized, hread.engine.finalizing,
        hread.engine.signed, hread.engine.keys⟩, hkept⟩, halone.objects, rfl, rfl, halone.onward⟩

/-- The claim of a candidate whose authorization is on record is the claim on record. -/
theorem KeepsClaim.ofSame {message : ParticipantAdmissionV2Message} {verdict : ApassVerdict}
    (hclaimed : assertSupervisedPledgeWindow request.claim request.role = .ok window)
    (hchecked : AdmissionChecked c configuration request window context now message verdict
      candidate) (hsame : SameAuthorization record candidate) :
    KeepsClaim c request.role record (candidate.claim window) where
  same := by
    simp only [AdmissionCandidate.claim, hsame.authorizationDigest, hsame.claimCommitment,
      hsame.participantWallet, hsame.authorizationNonce, hsame.chainId, hsame.issuedAt,
      hsame.expiresAt]
  window := assertSupervisedPledgeWindow_json hclaimed
  commitment := by
    obtain ⟨_, _, _, _, -, -, -, hverified, -⟩ := hchecked.verified
    have hrole : message.role = request.role := hverified.role
    rw [hsame.claimCommitment, ← hrole]
    exact hchecked.commitment

/-- The record of a request that is in its turn may be written. -/
theorem recordable_of_candidate
    (hconfigured : canonicalDirectAdmissionConfiguration c = .ok configuration)
    (henabled : assertDirectParticipantAdmissionEnabled c = .ok ())
    (hwindow : assertSupervisedPledgeWindow request.claim request.role = .ok window)
    (hcandidate : admissionCandidate c configuration request window
      (c.admissionContext request.role disk.state.stage) now = .ok candidate)
    (hturn : ¬ ((disk.files request.role).readJsonOrNull.isNone = true ∧
      disk.state.stage ≠ request.role.expectedStage)) : Recordable c disk candidate := by
  obtain ⟨message, verdict, hchecked⟩ := admissionCandidate_ok_iff.mp hcandidate
  have hrole := hchecked.role
  refine ⟨hchecked.runId, fun habsent hB hstage => ?_, ?_⟩
  · rw [hrole] at habsent hB
    rw [habsent] at hturn
    refine hturn ⟨rfl, ?_⟩
    rw [hB]
    intro h
    cases h.symm.trans hstage
  · rintro record rfl hformed
    rw [hrole] at hformed ⊢
    exact ⟨request, configuration, window, disk.state.stage, now, rfl, hconfigured, henabled,
      hwindow, hcandidate, hformed⟩

/-- **Step.** An admission keeps the invariant, wherever its process dies, and goes on from
what reading the case finds. -/
theorem admitParticipant_meets (h : CaseInvariant c disk) :
    Meets (Continues c (disk.reconciled false)) (fun _ _ => True) (admitParticipant c request now)
      disk := by
  simp only [admitParticipant, meets_bind, meets_lift, meets_reads,
    meets_throwIf]
  intro configuration hconfigured _ _ _ window hwindow
  apply (context_meets h).mono (fun _ h => .ofState h.invariant h.state)
  rintro _ next ⟨henabled, rfl, -, rfl⟩
  obtain ⟨hread, -⟩ := reconciled_spec h false
  generalize disk.reconciled false = next at hread ⊢
  have hstart : Continues c next next := .ofState hread rfl
  apply meets_storedAdmission hread
  intro hturn candidate hcandidate
  obtain ⟨message, verdict, hchecked⟩ := admissionCandidate_ok_iff.mp hcandidate
  have hrecordable := recordable_of_candidate hconfigured henabled hwindow hcandidate hturn
  apply (admitParticipantRole_meets hread hrecordable).mono
    (fun _ h => hstart.trans (.ofState h.1 h.2.state))
  rintro outcome recorded ⟨hrecorded, -, record, hentry⟩
  have hafter := hstart.trans (.ofState hrecorded hentry.alone.state)
  have hfile := hentry.file
  rw [hchecked.role] at hfile
  apply (admitParticipantClaim_meets hrecorded hfile
    (.ofSame hwindow hchecked hentry.same)).mono (fun _ h => hafter.trans ⟨h.1, h.2.2⟩)
  rintro _ kept ⟨hkept, hkeeps⟩
  have hkeeping := hafter.trans ⟨hkept, hkeeps.onward⟩
  apply (submitParticipantPledge_meets hkept).mono (fun _ => hkeeping.trans)
  intro _ submitted hsubmitted
  have hdone := hkeeping.trans hsubmitted
  apply (loadState_meets hdone.invariant).mono
    (fun _ h => hdone.trans ⟨h.invariant, h.alone.onward⟩)
  exact fun _ _ _ => Durable.meets_pure.mpr trivial

/-- **Step.** So does a challenge, which writes nothing but what reading does. -/
theorem participantAdmissionChallenge_meets (h : CaseInvariant c disk) {wallet : Text}
    {claim : Json} {nonce : Hex} :
    Meets (Continues c disk) (fun _ _ => True)
      (participantAdmissionChallenge c role wallet claim nonce now) disk := by
  simp only [participantAdmissionChallenge, meets_bind, meets_lift,
    meets_reads, meets_throwIf]
  intro _ _ _ _ _ _ _
  apply meets_storedAdmission h
  intro _ _ _
  apply (context_meets h).mono (fun _ h => ⟨h.invariant, h.alone.onward⟩)
  intros
  exact Durable.meets_pure.mpr trivial

/-- **Step.** Whatever is asked, and wherever the process dies. -/
theorem serve_meets (h : CaseInvariant c disk) (request : ParticipantRequest) (now : ℤ) :
    Meets (Continues c disk) (fun _ _ => True) (serve c request now) disk := by
  cases request with
  | challenge role wallet claim nonce =>
      simp only [serve, meets_bind]
      apply (participantAdmissionChallenge_meets h).mono (fun _ h => h)
      exact fun _ _ _ => Durable.meets_pure.mpr trivial
  | admission request =>
      simp only [serve, meets_bind]
      obtain ⟨hread, halone⟩ := reconciled_spec h false
      apply (admitParticipant_meets h).mono (fun _ => Continues.trans ⟨hread, halone.onward⟩)
      exact fun _ _ _ => Durable.meets_pure.mpr trivial
  | read =>
      simp only [serve, meets_bind]
      apply (loadState_meets h).mono (fun _ h => ⟨h.invariant, h.alone.onward⟩)
      exact fun _ _ _ => Durable.meets_pure.mpr trivial

/-- **Run.** The invariant holds of every disk that requests can leave. -/
theorem Reached.invariant (h : Reached c disk) : CaseInvariant c disk := by
  induction h with
  | prepared journalled => exact .prepared c journalled
  | serve request now _ hleaves ih => exact ((serve_meets ih request now).1 _ hleaves).invariant

end

end Mordant.Protection
