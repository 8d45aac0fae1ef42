/-
# What the files of a case agree on

The stage of a case, its journal, the participants' keys and the objects of the public
directory are written one at a time, and a death between two leaves them apart.  The
invariant says how far: an object that is there and not on record belongs to the operation
that is pending, a key is only gone when what it signed is there, and so on.
-/

import Mordant.Protection.ParticipantCase

namespace Mordant.Protection

open Foundation Script
open Function (update_of_ne update)
open Durable (Meets Returns)

/-! ## Stages -/

/-- The role's submission is on record. -/
def ParticipantRole.PublishedIn : ParticipantRole → ExecutionStage → Prop
  | .participantA, stage => stage ≠ .matchPrepared
  | .participantB, stage => stage = .participantBPublished ∨ stage = .participantBSubmitted

/-- The role has submitted its claim. -/
def ParticipantRole.SubmittedIn : ParticipantRole → ExecutionStage → Prop
  | .participantA, stage => stage ≠ .matchPrepared
  | .participantB, stage => stage = .participantBSubmitted

/-- The object whose publication completes the role's submission. -/
def ParticipantRole.lastObject : ParticipantRole → PublicObject
  | .participantA => .submissionManifest .participantA
  | .participantB => .caseManifest

/-- The stages that an operation can be pending in. -/
def ProductOperationPhase.RunsIn : ProductOperationPhase → ExecutionStage → Prop
  | .preparing, stage => stage = .matchPrepared
  | .submitting role, stage => stage = role.expectedStage ∨ stage = role.publishedStage
  | .finalizing, stage => stage = .participantBPublished ∨ stage = .participantBSubmitted

instance (role : ParticipantRole) (stage : ExecutionStage) : Decidable (role.PublishedIn stage) :=
  match role with
  | .participantA => inferInstanceAs (Decidable (stage ≠ _))
  | .participantB => inferInstanceAs (Decidable (_ ∨ _))

instance (role : ParticipantRole) (stage : ExecutionStage) : Decidable (role.SubmittedIn stage) :=
  match role with
  | .participantA => inferInstanceAs (Decidable (stage ≠ _))
  | .participantB => inferInstanceAs (Decidable (stage = _))

/-- Whoever has submitted in the first stage has in the second. -/
def Onward (first second : ExecutionStage) : Prop :=
  ∀ role : ParticipantRole, role.SubmittedIn first → role.SubmittedIn second

theorem Onward.refl (stage : ExecutionStage) : Onward stage stage := fun _ h => h

theorem Onward.trans {first second third : ExecutionStage} (h : Onward first second)
    (h' : Onward second third) : Onward first third := fun role hrole => h' role (h role hrole)

/-! ## The invariant -/

/-- What the engine's own files agree on. -/
structure EngineInvariant (state : InternalState) (pending : Option ProductOperationPhase)
    (keys : ParticipantRole → Bool) (objects : PublicObject → Bool) : Prop where
  submissions : ∀ role, state.submissions role = true ↔ role.PublishedIn state.stage
  runs : ∀ phase, pending = some phase → phase.RunsIn state.stage
  /-- A submission on record is there, and one that is there is on record or pending. -/
  manifest : ∀ role, role.PublishedIn state.stage → objects (.submissionManifest role) = true
  publishing : ∀ role, objects (.submissionManifest role) = true →
    role.PublishedIn state.stage ∨ pending = some (.submitting role)
  finalized : state.stage = .participantBSubmitted → objects .caseManifest = true
  finalizing : objects .caseManifest = true →
    state.stage = .participantBSubmitted ∨ pending = some .finalizing
  /-- The signature of the binding is the first object of a role. -/
  signed : ∀ role, objects (.bindingSignature role) = false →
    objects (.submission role) = false ∧ objects (.submissionManifest role) = false ∧
      objects (.enrollment role) = false
  keys : ∀ role, keys role = false → objects (.submissionManifest role) = true

/-- The context that a case gives to a request of a role. -/
def ParticipantCase.admissionContext (c : ParticipantCase) (role : ParticipantRole)
    (stage : ExecutionStage) : ParticipantAdmissionContext :=
  ⟨stage, c.fheCaseId, c.cleanverseAssetDigest, c.protectionBindingDigest, c.signingKey role⟩

/-- A request that was admitted once, and the record that it left. -/
structure AdmittedBy (c : ParticipantCase) (role : ParticipantRole) (request : AdmissionRequest)
    (configuration : CanonicalRecourseConfiguration) (window : SupervisedPledgeWindow)
    (stage : ExecutionStage) (now : ℤ) (record : ParticipantAdmissionRecord) : Prop where
  asked : request.role = role
  configured : canonicalDirectAdmissionConfiguration c = .ok configuration
  enabled : assertDirectParticipantAdmissionEnabled c = .ok ()
  claimed : assertSupervisedPledgeWindow request.claim role = .ok window
  candidate : admissionCandidate c configuration request window (c.admissionContext role stage)
    now = .ok record.toAdmissionCandidate
  formed : assertAdmissionRecord record c.runId role = .ok ()

/-- The claim that the engine keeps is the one on record. -/
structure KeepsClaim (c : ParticipantCase) (role : ParticipantRole)
    (record : ParticipantAdmissionRecord) (claim : AdmittedParticipantClaim) : Prop where
  same : claim = record.toAdmissionCandidate.claim claim.claim
  window : assertSupervisedPledgeWindow claim.claim.json role = .ok claim.claim
  commitment : participantClaimCommitment c.runtime c.runId role claim.claim.activeFrom
    claim.claim.activeUntil = .ok record.claimCommitment

/-- What the ledger and the claims agree on. -/
structure RecordInvariant (c : ParticipantCase) (files : AdmissionFiles) (state : InternalState)
    (objects : PublicObject → Bool) : Prop where
  admitted : ∀ {role record}, files role = .complete record →
    ∃ request configuration window stage now,
      AdmittedBy c role request configuration window stage now record
  claimed : ∀ {role claim}, state.admittedClaims role = some claim →
    ∃ record, files role = .complete record ∧ KeepsClaim c role record claim
  /-- B was admitted after A had submitted. -/
  turn : ∀ {record}, files .participantB = .complete record → state.stage ≠ .matchPrepared
  publishedClaim : objects (.submissionManifest .participantB) = true →
    ∃ claim, state.admittedClaims .participantB = some claim

/-- What holds of the disk of a case whenever its process dies. -/
structure CaseInvariant (c : ParticipantCase) (disk : CaseDisk) : Prop where
  engine : EngineInvariant disk.state disk.pending disk.keys disk.objects
  records : RecordInvariant c disk.files disk.state disk.objects

theorem CaseInvariant.prepared (c : ParticipantCase) (journalled : Bool) :
    CaseInvariant c (.prepared journalled) := by
  constructor
  case engine =>
    constructor
    case submissions =>
      intro role
      cases role <;> simp [CaseDisk.prepared, ParticipantRole.PublishedIn]
    case runs =>
      intro phase hphase
      cases journalled with
      | true => exact nomatch hphase
      | false =>
          obtain rfl := Option.some.inj hphase
          rfl
    case manifest =>
      intro role hrole
      cases role with
      | participantA => exact absurd rfl hrole
      | participantB => exact hrole.elim (fun h => nomatch h) (fun h => nomatch h)
    case publishing => exact fun _ h => nomatch h
    case finalized => exact fun h => nomatch h
    case finalizing => exact fun h => nomatch h
    case signed => exact fun _ _ => ⟨rfl, rfl, rfl⟩
    case keys => exact fun _ h => nomatch h
  case records =>
    constructor
    case admitted => exact fun h => nomatch h
    case claimed => exact fun h => nomatch h
    case turn => exact fun h => nomatch h
    case publishedClaim => exact fun h => nomatch h

/-! ## One write -/

section

variable {state : InternalState} {pending : Option ProductOperationPhase}
  {keys : ParticipantRole → Bool} {objects : PublicObject → Bool} {role : ParticipantRole}
  {phase : ProductOperationPhase} {object : PublicObject}

/-- An operation that begins. -/
theorem EngineInvariant.begin (h : EngineInvariant state none keys objects)
    (hruns : phase.RunsIn state.stage) : EngineInvariant state (some phase) keys objects where
  submissions := h.submissions
  runs := by
    rintro _ ⟨⟩
    exact hruns
  manifest := h.manifest
  publishing role hobject := (h.publishing role hobject).imp_right fun h => nomatch h
  finalized := h.finalized
  finalizing hobject := (h.finalizing hobject).imp_right fun h => nomatch h
  signed := h.signed
  keys := h.keys

/-- An operation that is over has what it was to publish on record. -/
theorem EngineInvariant.finish (h : EngineInvariant state (some phase) keys objects)
    (hsubmitted : ∀ role, phase = .submitting role → role.PublishedIn state.stage)
    (hfinalized : phase = .finalizing → state.stage = .participantBSubmitted) :
    EngineInvariant state none keys objects where
  submissions := h.submissions
  runs _ hphase := nomatch hphase
  manifest := h.manifest
  publishing role hobject := by
    rcases h.publishing role hobject with hpublished | hpending
    · exact .inl hpublished
    · exact .inl (hsubmitted role (Option.some.inj hpending))
  finalized := h.finalized
  finalizing hobject := by
    rcases h.finalizing hobject with hstage | hpending
    · exact .inl hstage
    · exact .inl (hfinalized (Option.some.inj hpending))
  signed := h.signed
  keys := h.keys

/-- A submission that is put on record. -/
theorem EngineInvariant.publish
    (h : EngineInvariant state (some (.submitting role)) keys objects)
    (hobject : objects (.submissionManifest role) = true) :
    EngineInvariant (state.publish role) (some (.submitting role)) keys objects := by
  have hruns := h.runs _ rfl
  constructor
  case submissions =>
    intro other
    have hother := h.submissions other
    cases role <;> cases other <;> rcases hruns with hstage | hstage <;>
      simp_all [InternalState.publish, ParticipantRole.PublishedIn, ParticipantRole.publishedStage,
        ParticipantRole.expectedStage]
  case runs =>
    rintro _ ⟨⟩
    exact .inr rfl
  case manifest =>
    intro other hother
    by_cases hrole : other = role
    · subst hrole
      exact hobject
    · apply h.manifest other
      cases role <;> cases other <;> rcases hruns with hstage | hstage <;>
        simp_all [InternalState.publish, ParticipantRole.PublishedIn,
          ParticipantRole.publishedStage, ParticipantRole.expectedStage]
  case publishing =>
    intro other hother
    rcases h.publishing other hother with hpublished | hpending
    · apply Or.inl
      cases role <;> cases other <;> rcases hruns with hstage | hstage <;>
        simp_all [InternalState.publish, ParticipantRole.PublishedIn,
          ParticipantRole.publishedStage, ParticipantRole.expectedStage]
    · exact .inr hpending
  case finalized =>
    intro hstage
    cases role <;> exact nomatch hstage
  case finalizing =>
    intro hcase
    rcases h.finalizing hcase with hstage | hpending
    · cases role <;> rcases hruns with hruns | hruns <;> exact nomatch hstage.symm.trans hruns
    · exact nomatch hpending
  case signed => exact h.signed
  case keys => exact h.keys

/-- A case that is put on record as final. -/
theorem EngineInvariant.finalize (h : EngineInvariant state (some .finalizing) keys objects)
    (hobject : objects .caseManifest = true) :
    EngineInvariant { state with stage := .participantBSubmitted } (some .finalizing) keys
      objects := by
  have hruns : state.stage = .participantBPublished ∨ state.stage = .participantBSubmitted :=
    h.runs _ rfl
  have hpublished : ∀ role : ParticipantRole, role.PublishedIn state.stage ↔
      role.PublishedIn .participantBSubmitted := by
    intro role
    cases role <;> rcases hruns with hstage | hstage <;>
      simp [hstage, ParticipantRole.PublishedIn]
  constructor
  case submissions => exact fun role => (h.submissions role).trans (hpublished role)
  case runs =>
    rintro _ ⟨⟩
    exact .inr rfl
  case manifest => exact fun role hrole => h.manifest role ((hpublished role).mpr hrole)
  case publishing => exact fun role hrole => (h.publishing role hrole).imp_left (hpublished role).mp
  case finalized => exact fun _ => hobject
  case finalizing => exact fun _ => .inl rfl
  case signed => exact h.signed
  case keys => exact h.keys

/-- A key that is removed after what it signed was published. -/
theorem EngineInvariant.removeKey (h : EngineInvariant state pending keys objects)
    (hobject : objects (.submissionManifest role) = true) :
    EngineInvariant state pending (update keys role false) objects :=
  { h with
    keys := by
      intro other hkey
      by_cases hrole : other = role
      · subst hrole
        exact hobject
      · rw [update_of_ne hrole] at hkey
        exact h.keys other hkey }

/-- An object that is published in its turn, by the operation that is to publish it. -/
theorem EngineInvariant.create (h : EngineInvariant state pending keys objects)
    (hsigned : ∀ role, object = .submission role ∨ object = .submissionManifest role ∨
      object = .enrollment role → objects (.bindingSignature role) = true)
    (hmanifest : ∀ role, object = .submissionManifest role → pending = some (.submitting role))
    (hcase : object = .caseManifest → pending = some .finalizing) :
    EngineInvariant state pending keys (update objects object true) := by
  have hkept : ∀ {other}, objects other = true → update objects object true other = true := by
    intro other hother
    by_cases hsame : other = object
    · rw [hsame, Function.update_self]
    · rw [update_of_ne hsame]
      exact hother
  have hnew : ∀ {other}, update objects object true other = true →
      other ≠ object → objects other = true := by
    intro other hother hne
    rwa [update_of_ne hne] at hother
  constructor
  case submissions => exact h.submissions
  case runs => exact h.runs
  case manifest => exact fun role hrole => hkept (h.manifest role hrole)
  case publishing =>
    intro role hrole
    by_cases hsame : .submissionManifest role = object
    · exact .inr (hmanifest role hsame.symm)
    · exact h.publishing role (hnew hrole hsame)
  case finalized => exact fun hstage => hkept (h.finalized hstage)
  case finalizing =>
    intro hobject
    by_cases hsame : .caseManifest = object
    · exact .inr (hcase hsame.symm)
    · exact h.finalizing (hnew hobject hsame)
  case signed =>
    intro role hunsigned
    have hwas : objects (.bindingSignature role) ≠ true := by
      intro hsignature
      exact absurd (hkept hsignature) (Bool.eq_false_iff.mp hunsigned)
    obtain ⟨hsubmission, hman, henrollment⟩ := h.signed role (Bool.eq_false_iff.mpr hwas)
    refine ⟨?_, ?_, ?_⟩
    · rw [update_of_ne fun hsame => hwas (hsigned role (.inl hsame.symm))]
      exact hsubmission
    · rw [update_of_ne fun hsame => hwas (hsigned role (.inr (.inl hsame.symm)))]
      exact hman
    · rw [update_of_ne fun hsame => hwas (hsigned role (.inr (.inr hsame.symm)))]
      exact henrollment
  case keys => exact fun role hkey => hkept (h.keys role hkey)

end

section

variable {c : ParticipantCase} {files : AdmissionFiles} {state : InternalState}
  {objects : PublicObject → Bool} {role : ParticipantRole} {object : PublicObject}
  {record : ParticipantAdmissionRecord} {claim : AdmittedParticipantClaim}

/-- A stage that is not taken back. -/
theorem RecordInvariant.advance (h : RecordInvariant c files state objects)
    {next : InternalState} (hclaims : next.admittedClaims = state.admittedClaims)
    (hstage : state.stage ≠ .matchPrepared → next.stage ≠ .matchPrepared) :
    RecordInvariant c files next objects where
  admitted := h.admitted
  claimed hclaim := h.claimed (hclaims ▸ hclaim)
  turn hrecord := hstage (h.turn hrecord)
  publishedClaim hobject := hclaims ▸ h.publishedClaim hobject

theorem RecordInvariant.create (h : RecordInvariant c files state objects)
    (hclaim : object = .submissionManifest .participantB →
      ∃ claim, state.admittedClaims .participantB = some claim) :
    RecordInvariant c files state (update objects object true) :=
  { h with
    publishedClaim := by
      intro hobject
      by_cases hsame : .submissionManifest .participantB = object
      · exact hclaim hsame.symm
      · rw [update_of_ne hsame] at hobject
        exact h.publishedClaim hobject }

/-- A claim that is kept for a record. -/
theorem RecordInvariant.keep (h : RecordInvariant c files state objects)
    (hrecord : files role = .complete record) (hkeeps : KeepsClaim c role record claim) :
    RecordInvariant c files
      { state with admittedClaims := update state.admittedClaims role (some claim) }
      objects where
  admitted := h.admitted
  claimed := by
    intro other kept hkept
    by_cases hrole : other = role
    · subst hrole
      obtain rfl : claim = kept := by simpa using hkept
      exact ⟨record, hrecord, hkeeps⟩
    · exact h.claimed (by simpa [update_of_ne hrole] using hkept)
  turn := h.turn
  publishedClaim := by
    intro hobject
    obtain ⟨kept, hkept⟩ := h.publishedClaim hobject
    by_cases hrole : .participantB = role
    · exact ⟨claim, by simp [← hrole]⟩
    · exact ⟨kept, by simpa [update_of_ne hrole] using hkept⟩

/-- A record file that changes, and was no record before. -/
theorem RecordInvariant.write (h : RecordInvariant c files state objects) {file : AdmissionFile}
    (hvacant : ∀ record, files role ≠ .complete record)
    (hfile : ∀ record, file = .complete record → (∃ request configuration window stage now,
      AdmittedBy c role request configuration window stage now record) ∧
        (role = .participantB → state.stage ≠ .matchPrepared)) :
    RecordInvariant c (update files role file) state objects where
  admitted := by
    intro other record hrecord
    by_cases hrole : other = role
    · subst hrole
      exact (hfile record (by simpa using hrecord)).1
    · exact h.admitted (by simpa [update_of_ne hrole] using hrecord)
  claimed := by
    intro other claim hclaim
    obtain ⟨record, hrecord, hkeeps⟩ := h.claimed hclaim
    refine ⟨record, ?_, hkeeps⟩
    by_cases hrole : other = role
    · subst hrole
      exact absurd hrecord (hvacant record)
    · rw [update_of_ne hrole]
      exact hrecord
  turn := by
    intro record hrecord
    by_cases hrole : .participantB = role
    · subst hrole
      exact (hfile record (by simpa using hrecord)).2 rfl
    · exact h.turn (by simpa [update_of_ne hrole] using hrecord)
  publishedClaim := h.publishedClaim

end

/-! ## Reading a case -/

/-- The keys that are left once an operation was reconciled. -/
def ProductOperationPhase.keysAfter (keys : ParticipantRole → Bool) :
    ProductOperationPhase → ParticipantRole → Bool
  | .submitting role => update keys role false
  | _ => keys

/-- The disk that reading leaves where it gets to its end. -/
def CaseDisk.reconciled (disk : CaseDisk) (allowPrivateInspection : Bool) : CaseDisk :=
  match disk.pending with
  | none => disk
  | some pending =>
    match reconcileProtectionProjection disk.state pending
      { foundationPrivateComplete := allowPrivateInspection && pending = .preparing
        submission := fun role => disk.objects (.submissionManifest role)
        finalized := disk.objects .caseManifest } with
    | none => disk
    | some state =>
      { disk with
        state := state
        pending := none
        keys := pending.keysAfter disk.keys }

section

variable {c : ParticipantCase} {disk : CaseDisk} {allow : Bool} {I : CaseDisk → Prop}
  {Q : InternalState → CaseDisk → Prop} {role : ParticipantRole}

theorem reconciled_of_none (h : disk.pending = none) : disk.reconciled allow = disk := by
  simp only [CaseDisk.reconciled, h]

/-- A submission that is there is put on record. -/
theorem reconciled_submitting (hphase : disk.pending = some (.submitting role))
    (hobject : disk.objects (.submissionManifest role) = true) :
    disk.reconciled allow =
      { disk with
        state := disk.state.publish role
        pending := none
        keys := update disk.keys role false } := by
  simp only [CaseDisk.reconciled, hphase, reconcileProtectionProjection, if_pos hobject]
  rfl

/-- And so is the manifest of the case. -/
theorem reconciled_finalizing (hphase : disk.pending = some .finalizing)
    (hobject : disk.objects .caseManifest = true) :
    disk.reconciled allow =
      { disk with
        state := { disk.state with stage := .participantBSubmitted }
        pending := none } := by
  simp only [CaseDisk.reconciled, hphase, reconcileProtectionProjection, if_pos hobject]
  rfl

/-- An operation that published nothing stays pending. -/
theorem reconciled_of_absent
    (habsent : (∃ role, disk.pending = some (.submitting role) ∧
        disk.objects (.submissionManifest role) ≠ true) ∨
      (disk.pending = some .finalizing ∧ disk.objects .caseManifest ≠ true)) :
    disk.reconciled allow = disk := by
  rcases habsent with ⟨role, hphase, hobject⟩ | ⟨hphase, hobject⟩
  all_goals
    simp only [CaseDisk.reconciled, hphase, reconcileProtectionProjection, if_neg hobject]

/-- A key that is gone is not missing from the keys that are left. -/
theorem keysAfter_of_gone {keys : ParticipantRole → Bool}
    (h : keys role ≠ true) : ProductOperationPhase.keysAfter keys (.submitting role) = keys := by
  apply Function.update_eq_self_iff.mpr
  exact (Bool.eq_false_iff.mpr h).symm

theorem meets_removeSubmittedKey {phase : ProductOperationPhase} {Q : Unit → CaseDisk → Prop}
    (hleft : I { disk with keys := phase.keysAfter disk.keys })
    (hdone : Q () { disk with keys := phase.keysAfter disk.keys }) :
    Meets I Q (removeSubmittedKey phase) disk := by
  cases phase with
  | preparing => exact Durable.meets_pure.mpr hdone
  | finalizing => exact Durable.meets_pure.mpr hdone
  | submitting role =>
      simp only [removeSubmittedKey, Durable.meets_bind, Durable.meets_reads, pure_ok_iff,
        forall_eq']
      by_cases hkey : disk.keys role = true
      · rw [if_pos hkey]
        exact Durable.meets_modify.mpr ⟨hleft, hdone⟩
      · rw [if_neg hkey]
        rw [keysAfter_of_gone hkey] at hdone
        exact Durable.meets_pure.mpr hdone

theorem returns_removeSubmittedKey {phase : ProductOperationPhase} {Q : Unit → CaseDisk → Prop}
    (hdone : Q () { disk with keys := phase.keysAfter disk.keys }) :
    Returns Q (removeSubmittedKey phase) disk := by
  cases phase with
  | preparing => exact Durable.returns_pure.mpr hdone
  | finalizing => exact Durable.returns_pure.mpr hdone
  | submitting role =>
      simp only [removeSubmittedKey, Durable.returns_bind, Durable.returns_reads, pure_ok_iff,
        exists_eq_left']
      by_cases hkey : disk.keys role = true
      · rw [if_pos hkey]
        exact Durable.returns_modify.mpr hdone
      · rw [if_neg hkey]
        rw [keysAfter_of_gone hkey] at hdone
        exact Durable.returns_pure.mpr hdone

/-- The rule for reading a case: what it may leave, and what it returns with. -/
theorem meets_loadState
    (hdone : disk.temporary = false →
      Q (disk.reconciled allow).state (disk.reconciled allow))
    (hleft : disk.temporary = false → disk.pending ≠ none →
      (disk.reconciled allow).pending = none →
      I { disk with state := (disk.reconciled allow).state } ∧
      I { disk with state := (disk.reconciled allow).state, pending := none } ∧
      I (disk.reconciled allow)) :
    Meets I Q (loadState allow) disk := by
  obtain ⟨lock, files, state, pending, keys, temporary, objects⟩ := disk
  simp only [loadState, reconcileState, inspectCase, Durable.meets_bind, Durable.meets_reads,
    pure_ok_iff, forall_eq', revertIf_bind_ok_iff, Bool.not_eq_true]
  rintro _ ⟨htemporary, rfl⟩
  have hdone := hdone htemporary
  have hleft := hleft htemporary
  unfold CaseDisk.reconciled at hdone hleft
  cases pending with
  | none => exact Durable.meets_pure.mpr hdone
  | some pending =>
      simp only [Option.some.injEq] at hdone hleft ⊢
      cases hprojection : reconcileProtectionProjection state pending
          { foundationPrivateComplete := allow && pending = .preparing
            submission := fun role => objects (.submissionManifest role)
            finalized := objects .caseManifest } with
      | none =>
          simp only [hprojection] at hdone
          exact Durable.meets_pure.mpr hdone
      | some reconstructed =>
          simp only [hprojection] at hdone hleft
          obtain ⟨hfirst, hsecond, hthird⟩ := hleft (Option.some_ne_none _) trivial
          simp only [saveState, finishOperation, Durable.meets_bind, Durable.meets_modify,
            Durable.meets_reads, pure_ok_iff, forall_eq', Durable.meets_throwIf, not_not,
            forall_const]
          refine ⟨hfirst, hsecond, meets_removeSubmittedKey hthird ?_⟩
          exact Durable.meets_pure.mpr hdone

/-- Where no write is unfinished, reading returns. -/
theorem returns_loadState {Q : InternalState → CaseDisk → Prop}
    (htemporary : disk.temporary = false)
    (hdone : Q (disk.reconciled allow).state (disk.reconciled allow)) :
    Returns Q (loadState allow) disk := by
  obtain ⟨lock, files, state, pending, keys, temporary, objects⟩ := disk
  obtain rfl : temporary = false := htemporary
  simp only [loadState, reconcileState, inspectCase, Durable.returns_bind, Durable.returns_reads,
    pure_ok_iff, exists_eq_left', revertIf_bind_ok_iff, Bool.false_eq_true, not_false_eq_true,
    true_and]
  unfold CaseDisk.reconciled at hdone
  cases pending with
  | none => exact Durable.returns_pure.mpr hdone
  | some pending =>
      simp only [Option.some.injEq] at hdone ⊢
      cases hprojection : reconcileProtectionProjection state pending
          { foundationPrivateComplete := allow && pending = .preparing
            submission := fun role => objects (.submissionManifest role)
            finalized := objects .caseManifest } with
      | none =>
          simp only [hprojection] at hdone
          exact Durable.returns_pure.mpr hdone
      | some reconstructed =>
          simp only [hprojection] at hdone
          simp only [saveState, finishOperation, Durable.returns_bind, Durable.returns_modify,
            Durable.returns_reads, pure_ok_iff, exists_eq_left', Durable.returns_throwIf,
            not_true_eq_false, ne_eq, not_false_eq_true, true_and]
          apply returns_removeSubmittedKey
          exact Durable.returns_pure.mpr hdone

/-- What reading can have done. -/
theorem reconciled_cases (h : CaseInvariant c disk) :
    disk.reconciled allow = disk ∨
    (disk.pending = some .preparing ∧ disk.reconciled allow = { disk with pending := none }) ∨
    (∃ role, disk.pending = some (.submitting role) ∧
      disk.objects (.submissionManifest role) = true ∧
      disk.reconciled allow =
        { disk with
          state := disk.state.publish role
          pending := none
          keys := update disk.keys role false }) ∨
    (disk.pending = some .finalizing ∧ disk.objects .caseManifest = true ∧
      disk.reconciled allow =
        { disk with
          state := { disk.state with stage := .participantBSubmitted }
          pending := none }) := by
  cases hphase : disk.pending with
  | none => exact .inl (reconciled_of_none hphase)
  | some phase =>
      cases phase with
      | preparing =>
          have hstage : disk.state.stage = .matchPrepared := h.engine.runs _ hphase
          obtain ⟨lock, files, state, pending, keys, temporary, objects⟩ := disk
          obtain rfl : pending = some .preparing := hphase
          cases allow with
          | false => exact .inl rfl
          | true =>
              -- The stage that is put on record is the one that is.
              obtain ⟨stage, admittedClaims, submissions⟩ := state
              obtain rfl : stage = .matchPrepared := hstage
              exact .inr (.inl ⟨rfl, rfl⟩)
      | submitting role =>
          by_cases hobject : disk.objects (.submissionManifest role) = true
          · exact .inr (.inr (.inl ⟨role, rfl, hobject, reconciled_submitting hphase hobject⟩))
          · exact .inl (reconciled_of_absent (.inl ⟨role, hphase, hobject⟩))
      | finalizing =>
          by_cases hobject : disk.objects .caseManifest = true
          · exact .inr (.inr (.inr ⟨rfl, hobject, reconciled_finalizing hphase hobject⟩))
          · exact .inl (reconciled_of_absent (.inr ⟨hphase, hobject⟩))

/-- What reading leaves alone. -/
structure LeftAlone (disk next : CaseDisk) : Prop where
  lock : next.lock = disk.lock
  files : next.files = disk.files
  claims : next.state.admittedClaims = disk.state.admittedClaims
  temporary : next.temporary = disk.temporary
  objects : next.objects = disk.objects
  onward : Onward disk.state.stage next.state.stage

theorem LeftAlone.refl (disk : CaseDisk) : LeftAlone disk disk := ⟨rfl, rfl, rfl, rfl, rfl, .refl _⟩

theorem onward_publish {state : InternalState}
    (hruns : (ProductOperationPhase.submitting role).RunsIn state.stage) :
    Onward state.stage (state.publish role).stage := by
  intro other hother
  cases role <;> cases other <;> rcases hruns with hstage | hstage <;>
    simp_all [InternalState.publish, ParticipantRole.SubmittedIn, ParticipantRole.publishedStage,
      ParticipantRole.expectedStage]

theorem onward_submitted (stage : ExecutionStage) : Onward stage .participantBSubmitted := by
  intro role _
  cases role with
  | participantA => exact fun h => nomatch h
  | participantB => rfl

/-- Each of the writes of reading keeps the invariant. -/
theorem reconciled_writes (h : CaseInvariant c disk) (hpending : disk.pending ≠ none)
    (hdone : (disk.reconciled allow).pending = none) :
    (CaseInvariant c { disk with state := (disk.reconciled allow).state } ∧
      LeftAlone disk { disk with state := (disk.reconciled allow).state }) ∧
    (CaseInvariant c { disk with state := (disk.reconciled allow).state, pending := none } ∧
      LeftAlone disk { disk with state := (disk.reconciled allow).state, pending := none }) ∧
    CaseInvariant c (disk.reconciled allow) ∧ LeftAlone disk (disk.reconciled allow) := by
  have hrecords := h.records
  have hengine := h.engine
  rcases @reconciled_cases _ _ allow h with
    hsame | ⟨hphase, heq⟩ | ⟨role, hphase, hobject, heq⟩ | ⟨hphase, hobject, heq⟩
  · exact absurd (hsame ▸ hdone) hpending
  · rw [heq]
    rw [hphase] at hengine
    have hfinished := hengine.finish (fun _ h => nomatch h) (fun h => nomatch h)
    have hsame : ∀ pending, LeftAlone disk { disk with pending := pending } :=
      fun _ => ⟨rfl, rfl, rfl, rfl, rfl, .refl _⟩
    exact ⟨⟨h, .refl disk⟩, ⟨⟨hfinished, hrecords⟩, hsame _⟩, ⟨hfinished, hrecords⟩, hsame _⟩
  · rw [heq]
    rw [hphase] at hengine
    have honward := onward_publish (hengine.runs _ rfl)
    have hadvanced : RecordInvariant c disk.files (disk.state.publish role) disk.objects :=
      hrecords.advance rfl fun _ => by cases role <;> exact fun h => nomatch h
    have hpublished := hengine.publish hobject
    have hfinished := hpublished.finish (by
      rintro _ ⟨⟩
      cases role with
      | participantA => exact fun h => nomatch h
      | participantB => exact .inl rfl) (fun h => nomatch h)
    have halone : ∀ keys pending, LeftAlone disk
        { disk with state := disk.state.publish role, pending := pending, keys := keys } :=
      fun _ _ => ⟨rfl, rfl, rfl, rfl, rfl, honward⟩
    exact ⟨⟨⟨hphase ▸ hpublished, hadvanced⟩, halone _ _⟩, ⟨⟨hfinished, hadvanced⟩, halone _ _⟩,
      ⟨hfinished.removeKey hobject, hadvanced⟩, halone _ _⟩
  · rw [heq]
    rw [hphase] at hengine
    have honward := onward_submitted disk.state.stage
    have hadvanced : RecordInvariant c disk.files
        { disk.state with stage := .participantBSubmitted } disk.objects :=
      hrecords.advance rfl fun _ => fun h => nomatch h
    have hfinal := hengine.finalize hobject
    have hfinished := hfinal.finish (fun _ h => nomatch h) (fun _ => rfl)
    exact ⟨⟨⟨hphase ▸ hfinal, hadvanced⟩, rfl, rfl, rfl, rfl, rfl, honward⟩,
      ⟨⟨hfinished, hadvanced⟩, rfl, rfl, rfl, rfl, rfl, honward⟩,
      ⟨hfinished, hadvanced⟩, rfl, rfl, rfl, rfl, rfl, honward⟩

/-- The disk that reading ends with. -/
theorem reconciled_spec (h : CaseInvariant c disk) (allow : Bool) :
    CaseInvariant c (disk.reconciled allow) ∧ LeftAlone disk (disk.reconciled allow) := by
  rcases @reconciled_cases _ _ allow h with
    hsame | ⟨hphase, heq⟩ | ⟨role, hphase, -, heq⟩ | ⟨hphase, -, heq⟩
  · rw [hsame]
    exact ⟨h, .refl disk⟩
  all_goals
    apply (reconciled_writes h _ _).2.2
    · rw [hphase]
      exact Option.some_ne_none _
    · rw [heq]

/-- A disk that reading can leave: the invariant holds, and the state is on record. -/
structure Reads (c : ParticipantCase) (allow : Bool) (disk next : CaseDisk) : Prop where
  invariant : CaseInvariant c next
  alone : LeftAlone disk next
  state : next.state = (disk.reconciled allow).state

/-- Reading keeps the invariant, wherever its process dies. -/
theorem loadState_meets (h : CaseInvariant c disk) :
    Meets (Reads c allow disk) (fun state next => state = next.state ∧ next = disk.reconciled allow)
      (loadState allow) disk := by
  apply meets_loadState (fun _ => ⟨rfl, rfl⟩)
  intro _ hpending hdone
  obtain ⟨hfirst, hsecond, hthird⟩ := reconciled_writes h hpending hdone
  exact ⟨⟨hfirst.1, hfirst.2, rfl⟩, ⟨hsecond.1, hsecond.2, rfl⟩, hthird.1, hthird.2, rfl⟩

end

end Mordant.Protection
