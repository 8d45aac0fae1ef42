/-
# Recovering an admission

A role that is on record and has not submitted can only go on by the request that put it
there: a challenge is refused, and any other authorization is.  That request goes on while
the window it was signed for is open, and only from some of the places its process can have
died at.  `Recoverable` says from which, and the theorem that it is these and no others.
-/

import Mordant.Protection.CaseRequests

namespace Mordant.Protection

open Foundation Script
open Durable (meets_bind meets_lift meets_reads meets_throwIf)
open Durable (Meets Returns)

/-- The record's window is open, and the policy passes its wallet. -/
structure StillAdmissible (c : ParticipantCase) (record : ParticipantAdmissionRecord) (now : ℤ) :
    Prop where
  issued : bigIntOf record.issuedAt ≤ now
  unexpired : now ≤ bigIntOf record.expiresAt
  passes : ∃ verdict, c.verifyApass now record.participantWallet.text = some verdict ∧
    verdict.eligible = true ∧
    c.runtime.toLowerCase verdict.holderAddress =
      c.runtime.toLowerCase record.participantWallet.text

/-- Where a role on record can still submit at a time.  No write to the public directory was
left unfinished; and either the role's last object is there, or the ledger is not locked, the
authorization still admits, and the role has published nothing, or everything and B's key is
there. -/
def Recoverable (c : ParticipantCase) (role : ParticipantRole)
    (record : ParticipantAdmissionRecord) (now : ℤ) (disk : CaseDisk) : Prop :=
  disk.temporary = false ∧
    (disk.objects role.lastObject = true ∨
      disk.lock = false ∧ StillAdmissible c record now ∧
        (disk.objects (.bindingSignature role) = false ∨
          role = .participantB ∧ disk.state.stage = .participantBPublished ∧
            disk.pending ≠ some (.submitting .participantB) ∧ disk.keys .participantB = true))

section

variable {c : ParticipantCase} {disk : CaseDisk} {role : ParticipantRole} {allow : Bool}
  {record : ParticipantAdmissionRecord} {now : ℤ}

/-- A submission is never on record without its last object. -/
theorem lastObject_of_submitted (h : CaseInvariant c disk)
    (hsubmitted : role.SubmittedIn disk.state.stage) : disk.objects role.lastObject = true := by
  cases role with
  | participantA => exact h.engine.manifest .participantA hsubmitted
  | participantB => exact h.engine.finalized hsubmitted

/-- Where the last object is there and not on record, reading puts it on record. -/
theorem reconciled_of_lastObject (h : CaseInvariant c disk)
    (hobject : disk.objects role.lastObject = true) (hopen : ¬ role.SubmittedIn disk.state.stage) :
    disk.pending ≠ none ∧ (disk.reconciled allow).pending = none ∧
      role.SubmittedIn (disk.reconciled allow).state.stage := by
  cases role with
  | participantA =>
      have hphase : disk.pending = some (.submitting .participantA) :=
        (h.engine.publishing .participantA hobject).resolve_left hopen
      rw [reconciled_submitting hphase hobject, hphase]
      exact ⟨Option.some_ne_none _, rfl, fun h => nomatch h⟩
  | participantB =>
      have hphase : disk.pending = some .finalizing :=
        (h.engine.finalizing hobject).resolve_left hopen
      rw [reconciled_finalizing hphase hobject, hphase]
      exact ⟨Option.some_ne_none _, rfl, rfl⟩

/-- There is a published submission of B to go on from. -/
def Finalizable (disk : CaseDisk) : Prop :=
  disk.state.stage = .participantBPublished ∨
    disk.pending = some (.submitting .participantB) ∧
      disk.objects (.submissionManifest .participantB) = true

/-- Reading does not make one. -/
theorem finalizable_of_reconciled (h : CaseInvariant c disk)
    (hfinal : Finalizable (disk.reconciled allow)) : Finalizable disk := by
  rcases @reconciled_cases c disk allow h with
    hsame | ⟨hphase, heq⟩ | ⟨role, hphase, hobject, heq⟩ | ⟨hphase, -, heq⟩
  · exact hsame ▸ hfinal
  all_goals
    rw [heq] at hfinal
    rcases hfinal with hstage | ⟨hpending, -⟩
  · exact .inl hstage
  · exact nomatch hpending
  · cases role with
    | participantA => exact nomatch hstage
    | participantB => exact .inr ⟨hphase, hobject⟩
  · exact nomatch hpending
  · exact nomatch hstage
  · exact nomatch hpending

/-- Reading leaves B's key only where B's submission is on record and nothing of it pending. -/
theorem key_of_finalizable (h : CaseInvariant c disk) (hfinal : Finalizable disk)
    (hkey : (disk.reconciled allow).keys .participantB = true) :
    disk.state.stage = .participantBPublished ∧
      disk.pending ≠ some (.submitting .participantB) ∧ disk.keys .participantB = true := by
  have hobject : disk.objects (.submissionManifest .participantB) = true := by
    rcases hfinal with hstage | ⟨-, hobject⟩
    · exact h.engine.manifest .participantB (.inl hstage)
    · exact hobject
  have hpending : disk.pending ≠ some (.submitting .participantB) := by
    intro hphase
    rw [reconciled_submitting hphase hobject] at hkey
    simp at hkey
  refine ⟨hfinal.resolve_right fun h => hpending h.1, hpending, ?_⟩
  rcases @reconciled_cases c disk allow h with
    hsame | ⟨-, heq⟩ | ⟨role, hphase, -, heq⟩ | ⟨-, -, heq⟩
  · exact hsame ▸ hkey
  · rw [heq] at hkey
    exact hkey
  · cases role with
    | participantA =>
        rw [heq] at hkey
        simpa using hkey
    | participantB => exact absurd hphase hpending
  · rw [heq] at hkey
    exact hkey

/-! ## No recovery -/

/-- A request reads nothing of a directory with an unfinished write, and writes nothing. -/
theorem loadState_unreadable (htemporary : disk.temporary = true) :
    Meets (fun _ => False) (fun _ _ => False) (loadState allow) disk := by
  have hfalse : disk.temporary ≠ false := by
    rw [htemporary]
    exact Bool.true_eq_false.mp
  exact meets_loadState (fun h => (hfalse h).elim) fun h => (hfalse h).elim

theorem serve_unreadable (htemporary : disk.temporary = true) (request : ParticipantRequest) :
    Meets (fun _ => False) (fun _ _ => True) (serve c request now) disk := by
  have hcontext : ∀ role, Meets (fun _ => False) (fun _ _ => False)
      (readParticipantAdmissionContext c role) disk := by
    intro role
    simp only [readParticipantAdmissionContext, meets_bind, meets_lift]
    intro _ _
    exact (loadState_unreadable htemporary).mono (fun _ h => h) (fun _ _ h => h.elim)
  cases request with
  | challenge role wallet claim nonce =>
      simp only [serve, participantAdmissionChallenge, storedAdmission, meets_bind,
        meets_lift, meets_reads, meets_throwIf]
      intros
      exact (hcontext role).mono (fun _ h => h) (fun _ _ h => h.elim)
  | admission request =>
      simp only [serve, admitParticipant, meets_bind, meets_lift,
        meets_reads, meets_throwIf]
      intros
      exact (hcontext request.role).mono (fun _ h => h) (fun _ _ h => h.elim)
  | read =>
      simp only [serve, meets_bind]
      exact (loadState_unreadable htemporary).mono (fun _ h => h) (fun _ _ h => h.elim)

/-- A role that has signed the binding publishes nothing more, unless there is a published
submission of B. -/
theorem submitParticipantPledge_unpublished (h : CaseInvariant c disk)
    (hsigned : disk.objects (.bindingSignature role) = true)
    (hlast : disk.objects role.lastObject = false)
    (hfinal : role = .participantB → ¬ Finalizable disk) :
    Meets (fun next => CaseInvariant c next ∧ next.objects role.lastObject = false)
      (fun _ next => CaseInvariant c next ∧ next.objects role.lastObject = false)
      (submitParticipantPledge c role) disk := by
  have hkept : ∀ next : CaseDisk, next.objects = disk.objects →
      next.objects role.lastObject = false := by
    intro next hobjects
    rw [hobjects]
    exact hlast
  suffices Meets (fun next => next.objects role.lastObject = false) (fun _ _ => True)
      (submitParticipantPledge c role) disk by
    apply ((submitParticipantPledge_meets h).and (this.atEnd hlast)).mono
    · exact fun _ h => ⟨h.1.invariant, h.2⟩
    · exact fun _ _ h => ⟨h.1.invariant, h.2.2⟩
  simp only [submitParticipantPledge, meets_bind]
  apply (loadState_meets h).mono (fun _ h => hkept _ h.alone.objects)
  rintro _ next ⟨rfl, rfl⟩
  obtain ⟨-, halone⟩ := reconciled_spec h true
  simp only [meets_lift, meets_reads]
  intro _ _ _ _ _ _
  split
  · rename_i hpublished
    exact absurd (finalizable_of_reconciled h (.inl hpublished.2)) (hfinal hpublished.1)
  split
  · exact Durable.meets_pure.mpr trivial
  simp only [meets_bind, meets_throwIf]
  intro _
  apply meets_beginOperation
  intro _
  refine ⟨hkept _ halone.objects, ?_⟩
  simp only [submitParticipant, meets_bind, meets_reads, pure_ok_iff, forall_eq',
    meets_throwIf]
  intro _
  apply meets_createObject
  intro _ habsent
  -- The signature cannot be created again.
  have hpresent : (disk.reconciled true).objects (.bindingSignature role) = true := by
    rw [halone.objects]
    exact hsigned
  exact absurd (hpresent.symm.trans habsent) Bool.true_eq_false.mp

variable {configuration : CanonicalRecourseConfiguration} {request : AdmissionRequest}
  {window : SupervisedPledgeWindow} {context : ParticipantAdmissionContext}
  {candidate : AdmissionCandidate} {message : ParticipantAdmissionV2Message}
  {verdict : ApassVerdict}

/-- A request that passes its checks with the authorization on record shows that the record
is still admissible. -/
theorem StillAdmissible.ofSame
    (hchecked : AdmissionChecked c configuration request window context now message verdict
      candidate) (hsame : SameAuthorization record candidate) : StillAdmissible c record now := by
  obtain ⟨_, _, _, _, -, -, -, hverified, -⟩ := hchecked.verified
  constructor
  case issued =>
    rw [hsame.issuedAt, hchecked.issuedAt, bigIntOf_ofInt]
    exact hverified.issued
  case unexpired =>
    rw [hsame.expiresAt, hchecked.expiresAt, bigIntOf_ofInt]
    exact hverified.unexpired
  case passes =>
    rw [hsame.participantWallet, hchecked.wallet]
    exact ⟨verdict, hchecked.policy, hchecked.eligible, hchecked.holder⟩

/-- What is published stays unpublished in a request that is not the way to recover. -/
theorem admitParticipant_unpublished (h : CaseInvariant c disk)
    (hfile : disk.files role = .complete record) (hlast : disk.objects role.lastObject = false)
    (htemporary : disk.temporary = false) (hnot : ¬ Recoverable c role record now disk)
    (hrole : request.role = role) :
    Meets (fun next => next.objects role.lastObject = false) (fun _ _ => True)
      (admitParticipant c request now) disk := by
  subst hrole
  have hkept : ∀ next : CaseDisk, next.objects = disk.objects →
      next.objects request.role.lastObject = false := by
    intro next hobjects
    rw [hobjects]
    exact hlast
  simp only [admitParticipant, meets_bind, meets_lift, meets_reads,
    meets_throwIf]
  intro configuration hconfigured _ _ _ window hwindow
  apply (context_meets h).mono (fun _ h => hkept _ h.alone.objects)
  rintro _ next ⟨henabled, rfl, hkey, rfl⟩
  obtain ⟨hread, halone⟩ := reconciled_spec h false
  apply meets_storedAdmission hread
  intro hturn candidate hcandidate
  obtain ⟨message, verdict, hchecked⟩ := admissionCandidate_ok_iff.mp hcandidate
  have hread' : (disk.reconciled false).files candidate.role = .complete record := by
    rw [hchecked.role, halone.files]
    exact hfile
  have hrecordable := recordable_of_candidate hconfigured henabled hwindow hcandidate hturn
  apply (admitParticipantRole_meets hread hrecordable).mono
    (fun _ h => hkept _ (h.2.objects.trans halone.objects))
  rintro _ recorded ⟨hrecorded, hlock, entry, hentry⟩
  obtain rfl : record = entry := hentry.kept record hread'
  -- The ledger was free and the record is still admissible: only the files stand against it.
  have hadmissible : StillAdmissible c record now := .ofSame hchecked hentry.same
  rw [halone.lock] at hlock
  have hsigned : disk.objects (.bindingSignature request.role) = true := by
    by_contra hunsigned
    exact hnot ⟨htemporary, .inr ⟨hlock, hadmissible, .inl (Bool.eq_false_iff.mpr hunsigned)⟩⟩
  have hfinal : request.role = .participantB → ¬ Finalizable disk := by
    intro hB hfinal
    rw [hB] at hkey
    have hthere := key_of_finalizable h hfinal hkey
    exact hnot ⟨htemporary, .inr ⟨hlock, hadmissible, .inr ⟨hB, hthere⟩⟩⟩
  have hentered := hentry.file
  rw [hchecked.role] at hentered
  have hobjects := hentry.alone.objects.trans halone.objects
  apply (admitParticipantClaim_meets hrecorded hentered
    (.ofSame hwindow hchecked hentry.same)).mono (fun _ h => hkept _ (h.2.1.trans hobjects))
  rintro _ kept ⟨hkeptinvariant, hkeeps⟩
  have hkeptobjects := hkeeps.objects.trans hobjects
  have hkeptfinal : Finalizable kept → Finalizable disk := by
    intro hkeptfinal
    have hreread : Finalizable (recorded.reconciled true) := by
      rw [Finalizable, hkeeps.stage, hkeeps.pending, hkeeps.objects,
        ← (reconciled_spec hrecorded true).2.objects] at hkeptfinal
      exact hkeptfinal
    have hrecordedfinal := finalizable_of_reconciled hrecorded hreread
    rw [Finalizable, hentry.alone.state, hentry.alone.pending, hentry.alone.objects]
      at hrecordedfinal
    exact finalizable_of_reconciled h hrecordedfinal
  apply (submitParticipantPledge_unpublished hkeptinvariant (hkeptobjects ▸ hsigned)
    (hkept _ hkeptobjects) (fun hB h => hfinal hB (hkeptfinal h))).mono (fun _ h => h.2)
  rintro _ submitted ⟨hsubmitted, hunpublished⟩
  apply (loadState_meets hsubmitted).mono
  · intro _ hread
    rw [hread.alone.objects]
    exact hunpublished
  · exact fun _ _ _ => Durable.meets_pure.mpr trivial

/-- A challenge to a role on record is refused before the case is read. -/
theorem challenge_refused (h : CaseInvariant c disk) (hfile : disk.files role = .complete record)
    {wallet : Text} {claim : Json} {nonce : Hex} :
    Meets (fun _ => False) (fun _ _ => False)
      (participantAdmissionChallenge c role wallet claim nonce now) disk := by
  simp only [participantAdmissionChallenge, meets_bind, meets_lift,
    meets_reads, meets_throwIf]
  intro _ _ _ _ _ _ _
  apply meets_storedAdmission h
  rw [hfile]
  exact fun hvacant => (hvacant rfl).elim

/-- **No other way.** Where a role on record cannot recover, no request of the role makes it
submit. -/
theorem unsubmitted_of_not_recoverable (h : CaseInvariant c disk)
    (hfile : disk.files role = .complete record) (hopen : ¬ role.SubmittedIn disk.state.stage)
    (hnot : ¬ Recoverable c role record now disk) (request : ParticipantRequest)
    (hrole : request.role? = some role) :
    ¬ role.SubmittedIn ((serve c request now).last disk).state.stage := by
  cases htemporary : disk.temporary with
  | true =>
      rcases Durable.last_eq_or_leaves (serve c request now) disk with hsame | hleaves
      · rw [hsame]
        exact hopen
      · exact ((serve_unreadable htemporary request).1 _ hleaves).elim
  | false =>
      have hlast : disk.objects role.lastObject = false := by
        by_contra hpublished
        exact hnot ⟨htemporary, .inl (Bool.not_eq_false _ |>.mp hpublished)⟩
      have hunpublished : Meets (fun next => next.objects role.lastObject = false)
          (fun _ _ => True) (serve c request now) disk := by
        cases request with
        | read => exact nomatch hrole
        | challenge asked wallet claim nonce =>
            obtain rfl : asked = role := Option.some.inj hrole
            simp only [serve, meets_bind]
            exact (challenge_refused h hfile).mono (fun _ h => h.elim) (fun _ _ h => h.elim)
        | admission request =>
            simp only [serve, meets_bind]
            apply (admitParticipant_unpublished h hfile hlast htemporary hnot
              (Option.some.inj hrole)).mono (fun _ h => h)
            exact fun _ _ _ => Durable.meets_pure.mpr trivial
      have hend := hunpublished.last hlast
      have hinvariant : CaseInvariant c ((serve c request now).last disk) :=
        ((serve_meets h request now).last ⟨h, .refl _⟩).invariant
      intro hsubmitted
      exact absurd (hend.symm.trans (lastObject_of_submitted hinvariant hsubmitted))
        Bool.false_ne_true

end

end Mordant.Protection
