/-
# From a challenge to an admission

What the server hands a wallet to sign comes back as a request.  Between the two the same
values pass through different checks: those of the claim, on the way out, and those of the
signed struct, of the ledger and of its records, on the way in.  The struct must have
positive times; a claim may start at zero.
-/

import Mordant.Protection.AdmissionRetry
import Mordant.Protection.BridgeRecords

namespace Mordant.Protection

open Foundation Script
open Durable (meets_bind meets_throwIf meets_reads meets_lift meets_modify returns_bind)
open Durable (Meets Returns)

/-! ## Nothing is published without a claim -/

section

variable {c : ParticipantCase} {disk : CaseDisk} {role : ParticipantRole}

/-- Who has signed the binding of the case has its claim on record. -/
def CaseDisk.Backed (disk : CaseDisk) : Prop :=
  ∀ role, disk.objects (.bindingSignature role) = true →
    ∃ claim, disk.state.admittedClaims role = some claim

theorem CaseDisk.Backed.of_eq {next : CaseDisk} (h : disk.Backed)
    (hobjects : next.objects = disk.objects)
    (hclaims : next.state.admittedClaims = disk.state.admittedClaims) : next.Backed := by
  intro role hsigned
  rw [hobjects] at hsigned
  rw [hclaims]
  exact h role hsigned

theorem CaseDisk.Backed.create {object : PublicObject} (h : disk.Backed)
    (hobject : ∀ role, object = .bindingSignature role →
      ∃ claim, disk.state.admittedClaims role = some claim) : (disk.create object).Backed := by
  intro role hsigned
  by_cases hsame : .bindingSignature role = object
  · exact hobject role hsame.symm
  · exact h role ((Function.update_of_ne hsame _ _).symm.trans hsigned)

theorem createObject_backed {binary : String} {object : PublicObject} (h : disk.Backed)
    (hobject : ∀ role, object = .bindingSignature role →
      ∃ claim, disk.state.admittedClaims role = some claim) :
    Meets CaseDisk.Backed (fun _ next => next.Backed ∧ next.state = disk.state)
      (createObject binary object) disk := by
  apply meets_createObject
  intro _ _
  have hcreated := h.create hobject
  exact ⟨h.of_eq rfl rfl, hcreated.of_eq rfl rfl, hcreated, hcreated, rfl⟩

theorem submitParticipant_backed (h : disk.Backed)
    (hclaim : ∃ claim, disk.state.admittedClaims role = some claim) :
    Meets CaseDisk.Backed (fun _ next => next.Backed ∧ next.state = disk.state)
      (submitParticipant role) disk := by
  simp only [submitParticipant, meets_bind, meets_reads, pure_ok_iff, forall_eq',
    meets_throwIf]
  intro _
  have hfirst : ∀ other, PublicObject.bindingSignature role = .bindingSignature other →
      ∃ claim, disk.state.admittedClaims other = some claim := by
    intro other hother
    obtain rfl := PublicObject.bindingSignature.inj hother
    exact hclaim
  apply (createObject_backed h hfirst).mono (fun _ h => h)
  intro _ first hfirst
  apply (createObject_backed hfirst.1 (fun _ hobject => by simp at hobject)).mono (fun _ h => h)
  intro _ second hsecond
  apply (createObject_backed hsecond.1 (fun _ hobject => by simp at hobject)).mono (fun _ h => h)
  intro _ third hthird
  apply (createObject_backed hthird.1 (fun _ hobject => by simp at hobject)).mono (fun _ h => h)
  intro _ last hlast
  exact ⟨hlast.1, hlast.2.trans (hthird.2.trans (hsecond.2.trans hfirst.2))⟩

theorem loadState_backed {allow : Bool} (h : CaseInvariant c disk) (hbacked : disk.Backed) :
    Meets CaseDisk.Backed
      (fun state next => next.Backed ∧ state = next.state ∧ next = disk.reconciled allow)
      (loadState allow) disk := by
  have hleft := (@loadState_meets c disk allow h).mono
    (fun next hnext => hbacked.of_eq hnext.alone.objects hnext.alone.claims) (fun _ _ h => h)
  refine ⟨hleft.1, fun state hstate => ?_⟩
  obtain ⟨hsame, hlast⟩ := hleft.2 state hstate
  have halone := (reconciled_spec h allow).2
  exact ⟨hlast ▸ hbacked.of_eq halone.objects halone.claims, hsame, hlast⟩

theorem finalize_backed (h : disk.Backed) :
    Meets CaseDisk.Backed (fun _ => CaseDisk.Backed) (finalizeParticipantSubmissions disk.state)
      disk := by
  unfold finalizeParticipantSubmissions
  split
  · exact Durable.meets_pure.mpr h
  simp only [meets_bind, meets_throwIf]
  intro _
  apply meets_beginOperation
  intro _
  have hbegun : CaseDisk.Backed { disk with pending := some .finalizing } := h.of_eq rfl rfl
  refine ⟨hbegun, ?_⟩
  simp only [finalizeCase, meets_bind, meets_reads, pure_ok_iff, forall_eq',
    meets_throwIf]
  intro _
  apply (createObject_backed hbegun (fun _ hobject => by simp at hobject)).mono (fun _ h => h)
  rintro _ next ⟨hnext, hstate⟩
  simp only [saveState, meets_modify]
  have hclaims : next.state.admittedClaims = disk.state.admittedClaims :=
    congrArg InternalState.admittedClaims hstate
  have hsaved : CaseDisk.Backed
      { next with state := { disk.state with stage := .participantBSubmitted } } :=
    hnext.of_eq rfl hclaims.symm
  refine ⟨hsaved, meets_finishOperation fun _ => ?_⟩
  exact ⟨hsaved.of_eq rfl rfl, hsaved.of_eq rfl rfl⟩

theorem submitParticipantPledge_backed (h : CaseInvariant c disk) (hbacked : disk.Backed) :
    Meets CaseDisk.Backed (fun _ => CaseDisk.Backed) (submitParticipantPledge c role) disk := by
  simp only [submitParticipantPledge, meets_bind]
  apply (loadState_backed h hbacked).mono (fun _ h => h)
  rintro _ next ⟨hnext, rfl, -⟩
  simp only [meets_lift, meets_reads, require_ok_iff]
  intro _ _ claim hclaim _ _
  split
  · exact finalize_backed hnext
  split
  · exact Durable.meets_pure.mpr hnext
  simp only [meets_bind, meets_throwIf]
  intro _
  apply meets_beginOperation
  intro _
  have hbegun : CaseDisk.Backed { next with pending := some (.submitting role) } :=
    hnext.of_eq rfl rfl
  refine ⟨hbegun, (submitParticipant_backed hbegun ⟨claim, hclaim⟩).mono (fun _ h => h) ?_⟩
  rintro _ last ⟨hlast, hstate⟩
  obtain ⟨lock, files, state, pending, keys, temporary, objects⟩ := last
  obtain rfl : state = next.state := hstate
  simp only [removeKey, saveState, meets_modify]
  refine ⟨hlast.of_eq rfl rfl, hlast.of_eq rfl rfl, meets_finishOperation fun _ => ?_⟩
  have hdone : CaseDisk.Backed
      ⟨lock, files, next.state.publish role, none, Function.update keys role false, temporary,
        objects⟩ := hlast.of_eq rfl rfl
  refine ⟨hdone, ?_⟩
  split
  · exact finalize_backed hdone
  · exact Durable.meets_pure.mpr hdone

theorem admitParticipantClaim_backed {admission : AdmittedParticipantClaim}
    (h : CaseInvariant c disk) (hbacked : disk.Backed) :
    Meets CaseDisk.Backed (fun _ => CaseDisk.Backed) (admitParticipantClaim c role admission)
      disk := by
  simp only [admitParticipantClaim, meets_bind, meets_lift]
  intro _ _
  apply (loadState_backed h hbacked).mono (fun _ h => h)
  rintro _ next ⟨hnext, rfl, -⟩
  split
  · simp only [meets_bind, meets_throwIf, meets_reads]
    exact fun _ _ _ => hnext
  · simp only [meets_bind, meets_throwIf, meets_reads, saveState,
      meets_modify, and_self]
    intro _ _ _ other hsigned
    by_cases hother : other = role
    · subst hother
      exact ⟨admission, Function.update_self _ _ _⟩
    · obtain ⟨claim, hclaim⟩ := hnext other hsigned
      exact ⟨claim, (Function.update_of_ne hother _ _).trans hclaim⟩

theorem context_backed (h : CaseInvariant c disk) (hbacked : disk.Backed) :
    Meets CaseDisk.Backed (fun _ => CaseDisk.Backed) (readParticipantAdmissionContext c role)
      disk := by
  have hcontext := (@context_meets c disk role h).mono
    (fun next hnext => hbacked.of_eq hnext.alone.objects hnext.alone.claims) (fun _ _ h => h)
  exact hcontext.atEnd hbacked |>.mono (fun _ h => h) (fun _ _ h => h.2)

/-- The invariant of a case comes along with what is claimed for its sake. -/
theorem admitParticipant_backed {request : AdmissionRequest} {now : ℤ} (h : CaseInvariant c disk)
    (hbacked : disk.Backed) :
    Meets CaseDisk.Backed (fun _ _ => True) (admitParticipant c request now) disk := by
  simp only [admitParticipant, meets_bind, meets_lift, meets_reads,
    meets_throwIf]
  intro configuration hconfigured _ _ _ window hwindow
  apply ((context_meets h).and (context_backed h hbacked)).mono (fun _ h => h.2)
  rintro _ next ⟨⟨henabled, rfl, -, rfl⟩, hnext⟩
  obtain ⟨hread, -⟩ := reconciled_spec h false
  generalize disk.reconciled false = next at hread hnext ⊢
  apply meets_storedAdmission hread
  intro hturn candidate hcandidate
  obtain ⟨message, verdict, hchecked⟩ := admissionCandidate_ok_iff.mp hcandidate
  have hrecordable := recordable_of_candidate hconfigured henabled hwindow hcandidate hturn
  apply ((admitParticipantRole_meets hread hrecordable).atEnd
    ⟨hread, rfl, rfl, rfl, rfl, rfl⟩).mono
    (fun last hlast => hnext.of_eq hlast.2.objects (congrArg _ hlast.2.state))
  rintro outcome recorded ⟨⟨hrecorded, -, record, hentry⟩, -, halone⟩
  have hafter := hnext.of_eq halone.objects (congrArg _ halone.state)
  have hfile := hentry.file
  rw [hchecked.role] at hfile
  apply ((admitParticipantClaim_meets hrecorded hfile (.ofSame hwindow hchecked hentry.same)).and
    (admitParticipantClaim_backed hrecorded hafter)).mono (fun _ h => h.2)
  rintro _ kept ⟨⟨hkept, -⟩, hkeeping⟩
  apply ((submitParticipantPledge_meets hkept).and
    (submitParticipantPledge_backed hkept hkeeping)).mono (fun _ h => h.2)
  rintro _ submitted ⟨hsubmitted, hdone⟩
  apply (loadState_backed hsubmitted.invariant hdone).mono (fun _ h => h)
  exact fun _ _ _ => Durable.meets_pure.mpr trivial

/-- **Step.** -/
theorem serve_backed (h : CaseInvariant c disk) (hbacked : disk.Backed)
    (request : ParticipantRequest) (now : ℤ) :
    Meets CaseDisk.Backed (fun _ _ => True) (serve c request now) disk := by
  cases request with
  | challenge role wallet claim nonce =>
      simp only [serve, participantAdmissionChallenge, meets_bind, meets_lift,
        meets_reads, meets_throwIf]
      intro _ _ _ _ _ _ _
      apply meets_storedAdmission h
      intro _ _ _
      apply (context_backed h hbacked).mono (fun _ h => h)
      intros
      exact Durable.meets_pure.mpr (Durable.meets_pure.mpr trivial)
  | admission request =>
      simp only [serve, meets_bind]
      apply (admitParticipant_backed h hbacked).mono (fun _ h => h)
      exact fun _ _ _ => Durable.meets_pure.mpr trivial
  | read =>
      simp only [serve, meets_bind]
      apply (loadState_backed h hbacked).mono (fun _ h => h)
      exact fun _ _ _ => Durable.meets_pure.mpr trivial

/-- **Run.** -/
theorem Reached.backed (h : Reached c disk) : disk.Backed := by
  induction h with
  | prepared journalled => exact fun _ hsigned => nomatch hsigned
  | serve request now hreached hleaves ih =>
      exact (serve_backed hreached.invariant ih request now).1 _ hleaves

/-- A role whose submission is on record has its record in the ledger. -/
theorem record_of_published (hinvariant : CaseInvariant c disk) (hbacked : disk.Backed)
    (hpublished : role.PublishedIn disk.state.stage) :
    ∃ record, disk.files role = .complete record := by
  have hmanifest := hinvariant.engine.manifest role hpublished
  have hsigned : disk.objects (.bindingSignature role) = true := by
    by_contra hunsigned
    have habsent := (hinvariant.engine.signed role (Bool.eq_false_iff.mpr hunsigned)).2.1
    exact nomatch habsent.symm.trans hmanifest
  obtain ⟨claim, hclaim⟩ := hbacked role hsigned
  obtain ⟨record, hfile, -⟩ := hinvariant.records.claimed hclaim
  exact ⟨record, hfile⟩

end

/-! ## What comes back -/

/-- The message of a challenge, as the wallet's page sends it back. -/
def ParticipantAdmissionV2Message.json (message : ParticipantAdmissionV2Message) : Json :=
  .object
    [(lit "verifyingService", message.verifyingService),
      (lit "runId", message.runId),
      (lit "fheCaseId", .text message.fheCaseId),
      (lit "protectionBindingDigest", .text message.protectionBindingDigest),
      (lit "assetIdentityDigest", .text message.assetIdentityDigest),
      (lit "role", .text (lit message.role.text)),
      (lit "activeFrom", .number (.ofInt message.activeFrom)),
      (lit "activeUntil", .number (.ofInt message.activeUntil)),
      (lit "participantWallet", .text message.participantWallet),
      (lit "authorizationNonce", .text message.authorizationNonce),
      (lit "issuedAt", .number (.ofInt message.issuedAt)),
      (lit "expiresAt", .number (.ofInt message.expiresAt)),
      (lit "participantSigningKeyDigest", .text message.participantSigningKeyDigest)]

section

variable {message parsed : ParticipantAdmissionV2Message} {n : ℤ} {thrown : AuthorizationThrown}

theorem readNumber_positive_iff {k : ℤ} :
    readNumber (fun n => !n.le (.ofInt 0)) (some (.number (.ofInt n))) thrown = .ok k ↔
      0 < n ∧ n ≤ Number.maxSafeInteger ∧ k = n := by
  have htest : ((Number.ofInt n).isSafeInteger && !(Number.ofInt n).le (.ofInt 0)) = true ↔
      0 < n ∧ n ≤ Number.maxSafeInteger := by
    rw [Bool.and_eq_true, isSafeInteger_ofInt, Bool.not_eq_true', Bool.eq_false_iff, ne_eq,
      le_ofInt]
    have hmax : Number.maxSafeInteger.natAbs = 9007199254740991 := rfl
    have hmax' : Number.maxSafeInteger = 9007199254740991 := rfl
    omega
  simp only [readNumber]
  split
  · next hpasses =>
      obtain ⟨hpos, hle⟩ := htest.mp hpasses
      rw [bigIntOf_ofInt]
      exact ⟨fun h => ⟨hpos, hle, (Except.ok.inj h).symm⟩, fun h => congrArg Except.ok h.2.2.symm⟩
  · next hfails =>
      exact ⟨fun h => (nomatch h), fun h => absurd (htest.mpr ⟨h.1, h.2.1⟩) hfails⟩

theorem readRole_text (role : ParticipantRole) :
    readRole (some (.text (lit role.text))) thrown = .ok role := by
  cases role <;> rfl

/-- A message with the right digits. -/
structure WellSpelled (message : ParticipantAdmissionV2Message) : Prop where
  fheCaseId : isBytes32Text message.fheCaseId = true
  protectionBindingDigest : isBytes32Text message.protectionBindingDigest = true
  assetIdentityDigest : isBytes32Text message.assetIdentityDigest = true
  authorizationNonce : isBytes32Text message.authorizationNonce = true
  participantSigningKeyDigest : isBytes32Text message.participantSigningKeyDigest = true
  participantWallet : isAddressText message.participantWallet = true

/-- The members of a message that comes back. -/
structure ReadsBack (message : ParticipantAdmissionV2Message) (value : Json) : Prop where
  keys : value.hasExactKeys participantAdmissionV2Types = true
  verifyingService : value.get "verifyingService" = some message.verifyingService
  runId : value.get "runId" = some message.runId
  fheCaseId : value.get "fheCaseId" = some (.text message.fheCaseId)
  protectionBindingDigest :
    value.get "protectionBindingDigest" = some (.text message.protectionBindingDigest)
  assetIdentityDigest : value.get "assetIdentityDigest" = some (.text message.assetIdentityDigest)
  role : value.get "role" = some (.text (lit message.role.text))
  activeFrom : value.get "activeFrom" = some (.number (.ofInt message.activeFrom))
  activeUntil : value.get "activeUntil" = some (.number (.ofInt message.activeUntil))
  participantWallet : value.get "participantWallet" = some (.text message.participantWallet)
  authorizationNonce : value.get "authorizationNonce" = some (.text message.authorizationNonce)
  issuedAt : value.get "issuedAt" = some (.number (.ofInt message.issuedAt))
  expiresAt : value.get "expiresAt" = some (.number (.ofInt message.expiresAt))
  participantSigningKeyDigest :
    value.get "participantSigningKeyDigest" = some (.text message.participantSigningKeyDigest)

theorem ParticipantAdmissionV2Message.readsBack (message : ParticipantAdmissionV2Message) :
    ReadsBack message message.json where
  keys := List.isPerm_iff.mpr (List.Perm.refl _)
  verifyingService := rfl
  runId := rfl
  fheCaseId := rfl
  protectionBindingDigest := rfl
  assetIdentityDigest := rfl
  role := rfl
  activeFrom := rfl
  activeUntil := rfl
  participantWallet := rfl
  authorizationNonce := rfl
  issuedAt := rfl
  expiresAt := rfl
  participantSigningKeyDigest := rfl

/-- A time of a message that is read. -/
def IsAdmissionTime (n : ℤ) : Prop := 0 < n ∧ n ≤ Number.maxSafeInteger

theorem admissionBytes32_iff {value : Json} {key : String} {text read : Text}
    (hget : value.get key = some (.text text)) (hspelled : isBytes32Text text = true) :
    admissionBytes32 value key = .ok read ↔ read = text := by
  simp only [admissionBytes32, readText_ok_iff, hget, Option.some.injEq, Json.text.injEq]
  constructor
  · rintro ⟨rfl, -⟩
    rfl
  · rintro rfl
    exact ⟨rfl, hspelled⟩

theorem admissionSeconds_iff {value : Json} {key : String} {read : ℤ}
    (hget : value.get key = some (.number (.ofInt n))) :
    admissionSeconds value key = .ok read ↔ IsAdmissionTime n ∧ read = n := by
  simp only [admissionSeconds, hget, readNumber_positive_iff, IsAdmissionTime, and_assoc]

/-- Of such a message the times decide. -/
theorem assertParticipantAdmissionV2Message_json_iff (hspelled : WellSpelled message) :
    assertParticipantAdmissionV2Message message.json = .ok parsed ↔
      (IsAdmissionTime message.activeFrom ∧ IsAdmissionTime message.activeUntil ∧
        IsAdmissionTime message.issuedAt ∧ IsAdmissionTime message.expiresAt) ∧
      (message.issuedAt < message.expiresAt ∧
        message.expiresAt - message.issuedAt ≤ participantAuthorizationMaxLifetimeSeconds ∧
        message.activeFrom < message.activeUntil) ∧ parsed = message := by
  have hread := message.readsBack
  obtain ⟨members, hmembers⟩ : ∃ members, message.json = .object members := ⟨_, rfl⟩
  rw [hmembers] at hread ⊢
  have hwallet : ∀ {text} {thrown : AuthorizationThrown}, readText isAddressText
      ((Json.object members).get "participantWallet") thrown = .ok text ↔
        text = message.participantWallet := by
    intro text thrown
    simp only [readText_ok_iff, hread.participantWallet, Option.some.injEq, Json.text.injEq]
    constructor
    · rintro ⟨rfl, -⟩
      rfl
    · rintro rfl
      exact ⟨rfl, hspelled.participantWallet⟩
  simp only [assertParticipantAdmissionV2Message, bind_ok_iff, revertIf_ok_iff,
    exists_const, pure_ok_iff, hread.keys, admissionBytes32_iff hread.fheCaseId hspelled.fheCaseId,
    admissionBytes32_iff hread.protectionBindingDigest hspelled.protectionBindingDigest,
    admissionBytes32_iff hread.assetIdentityDigest hspelled.assetIdentityDigest,
    admissionBytes32_iff hread.authorizationNonce hspelled.authorizationNonce,
    admissionBytes32_iff hread.participantSigningKeyDigest hspelled.participantSigningKeyDigest,
    hwallet, hread.role, readRole_text, admissionSeconds_iff hread.activeFrom,
    admissionSeconds_iff hread.activeUntil, admissionSeconds_iff hread.issuedAt,
    admissionSeconds_iff hread.expiresAt, hread.verifyingService, hread.runId, exists_eq_left,
    Except.ok.injEq, exists_eq_left', not_le, not_lt, Option.getD_some]
  constructor
  · rintro ⟨-, _, ⟨hfrom, rfl⟩, _, ⟨huntil, rfl⟩, _, ⟨hissued, rfl⟩, _, ⟨hexpires, rfl⟩, hwindow,
      hlifetime, hclaim, rfl⟩
    exact ⟨⟨hfrom, huntil, hissued, hexpires⟩, ⟨hwindow, hlifetime, hclaim⟩, rfl⟩
  · rintro ⟨⟨hfrom, huntil, hissued, hexpires⟩, ⟨hwindow, hlifetime, hclaim⟩, rfl⟩
    exact ⟨Bool.true_eq_false.mp, _, ⟨hfrom, rfl⟩, _, ⟨huntil, rfl⟩, _, ⟨hissued, rfl⟩, _,
      ⟨hexpires, rfl⟩, hwindow, hlifetime, hclaim, rfl⟩

end

/-! ## What is handed out -/

section

variable {c : ParticipantCase} {disk : CaseDisk} {role : ParticipantRole} {wallet : Text}
  {claim : Json} {nonce : Hex} {t : ℤ} {message : ParticipantAdmissionV2Message}

/-- What is known of a message that a wallet is asked to sign. -/
structure Challenged (c : ParticipantCase) (role : ParticipantRole) (claim : Json) (nonce : Hex)
    (t : ℤ) (message : ParticipantAdmissionV2Message) : Prop where
  configured : ∃ configuration, canonicalDirectAdmissionConfiguration c = .ok configuration ∧
    message.participantWallet = (configuration.holder role).text
  enabled : assertDirectParticipantAdmissionEnabled c = .ok ()
  claimed : ∃ window, assertSupervisedPledgeWindow claim role = .ok window ∧
    message.activeFrom = window.activeFrom ∧ message.activeUntil = window.activeUntil
  key : ∃ digest, participantSigningKeyDigest c.runtime (c.signingKey role) = .ok digest ∧
    message.participantSigningKeyDigest = digest.text
  fheCaseId : ∃ digest, digestToBytes32 c.fheCaseId = .ok digest ∧
    message.fheCaseId = digest.text
  binding : ∃ digest, digestToBytes32 c.protectionBindingDigest = .ok digest ∧
    message.protectionBindingDigest = digest.text
  asset : ∃ digest, digestToBytes32 c.cleanverseAssetDigest = .ok digest ∧
    message.assetIdentityDigest = digest.text
  service : message.verifyingService = .text c.verifyingService
  runId : message.runId = .text c.runId
  role : message.role = role
  nonce : message.authorizationNonce = nonce.text
  issuedAt : message.issuedAt = t
  expiresAt : message.expiresAt = t + participantChallengeLifetimeSeconds

/-- Nothing is handed out that was not looked up. -/
theorem challenge_meets (h : CaseInvariant c disk) :
    Meets (fun _ => True)
      (fun typed _ => ∃ message, Challenged c role claim nonce t message ∧
        typed = participantAdmissionV2TypedData c.runtime message (.ofInt monadTestnetChainId))
      (participantAdmissionChallenge c role wallet claim nonce t) disk := by
  simp only [participantAdmissionChallenge, meets_bind, meets_lift,
    meets_reads, meets_throwIf, assertCanonicalParticipantWallet, bind_ok_iff,
    revertIf_ok_iff, exists_const, pure_ok_iff, mapError_ok_iff]
  rintro configuration hconfigured _ ⟨-, rfl⟩ _ _ _
  apply meets_storedAdmission h
  intro _ window hwindow
  apply (context_meets h).mono (fun _ _ => trivial)
  rintro _ next ⟨henabled, -, -, rfl⟩ _ key hkey fheCaseId hcase binding hbinding asset hasset
  refine Durable.meets_pure.mpr ⟨_, ?_, rfl⟩
  exact ⟨⟨configuration, hconfigured, rfl⟩, henabled, ⟨window, hwindow, rfl, rfl⟩,
    ⟨key, hkey, rfl⟩, ⟨fheCaseId, hcase, rfl⟩, ⟨binding, hbinding, rfl⟩, ⟨asset, hasset, rfl⟩,
    rfl, rfl, rfl, rfl, rfl, rfl⟩

end

/-! ## What is submitted -/

/-- What the libraries of a case do, and the parser of its configuration. -/
structure Documented (c : ParticipantCase) : Prop where
  sha256 : ∀ text, isDigestDigits (c.runtime.sha256 text) = true
  sha256Bytes : ∀ bytes, isDigestDigits (c.runtime.sha256Bytes bytes) = true
  hashAdmission : ∀ typed digest, c.runtime.hashAdmission typed = some digest →
    isBytes32Text digest.text = true
  /-- The holders are addresses. -/
  holder : ∀ configuration, c.loadCanonicalRecourseConfiguration = some configuration →
    ∀ role, isAddressText (configuration.holder role).text = true
  /-- And they are two. -/
  distinct : ∀ configuration, c.loadCanonicalRecourseConfiguration = some configuration →
    c.runtime.toLowerCase (configuration.holder .participantA).text ≠
      c.runtime.toLowerCase (configuration.holder .participantB).text

/-- The message comes back as it was, signed by its wallet and before it expires, to a case
that waits for it as it did. -/
structure SubmittedUnchanged (c : ParticipantCase) (later : CaseDisk) (role : ParticipantRole)
    (typed : AdmissionTypedData) (message : ParticipantAdmissionV2Message) (signature : Text)
    (t now : ℤ) : Prop where
  reached : Reached c later
  after : t ≤ now
  before : now ≤ t + participantChallengeLifetimeSeconds
  /-- Stage, key and digests are those the challenge was made for. -/
  context : Returns (fun context _ => context = c.admissionContext role role.expectedStage)
    (readParticipantAdmissionContext c role) later
  /-- The role is free, and nobody is being admitted. -/
  vacant : later.files role = .absent
  unlocked : later.lock = false
  /-- A nonce is drawn once. -/
  fresh : ∀ record, later.files role.other = .complete record →
    record.authorizationNonce.text ≠ message.authorizationNonce
  format : isSignatureText signature = true
  signed : c.verifyTypedData message.participantWallet typed signature = some true
  hashed : ∃ digest, c.runtime.hashAdmission typed = some digest
  passes : ∃ verdict, c.verifyApass now message.participantWallet = some verdict ∧
    verdict.eligible = true ∧
    c.runtime.toLowerCase verdict.holderAddress =
      c.runtime.toLowerCase message.participantWallet ∧
    verdict.observedBlock.isSafeInteger = true ∧ verdict.observedBlock.lt (.ofInt 0) = false

/-- A request is read, parsed and verified, and the ledger gives it the role. -/
def AdmitsRole (c : ParticipantCase) (request : AdmissionRequest) (now : ℤ) (disk : CaseDisk) :
    Prop :=
  Returns (fun context next => ∃ configuration window message candidate,
      canonicalDirectAdmissionConfiguration c = .ok configuration ∧
      assertSupervisedPledgeWindow request.claim request.role = .ok window ∧
      assertParticipantAdmissionV2Message request.authorization = .ok message ∧
      admissionCandidate c configuration request window context now = .ok candidate ∧
      Returns (fun outcome last => outcome.admitted = true ∧
          outcome.record.toAdmissionCandidate = candidate ∧
          last.files request.role = .complete outcome.record)
        (admitParticipantRole c candidate) next)
    (readParticipantAdmissionContext c request.role) disk

section

variable {c : ParticipantCase} {disk later : CaseDisk} {role : ParticipantRole} {claim : Json}
  {nonce : Hex} {t now : ℤ} {message : ParticipantAdmissionV2Message} {signature : Text}
  {configuration : CanonicalRecourseConfiguration} {window : SupervisedPledgeWindow}
  {candidate : AdmissionCandidate}

theorem isBytes32Text_of_digits {digits : Text} (h : isDigestDigits digits = true) :
    isBytes32Text (lit "0x" ++ digits) = true :=
  isCanonicalHex_of_digits h

theorem isBytes32Text_of_digest {digest : Text} {value : Hex}
    (h : digestToBytes32 digest = .ok value) : isBytes32Text value.text = true := by
  by_cases hdigits : isDigestDigits (digest.drop 7) = true
  · rw [digestToBytes32_of_digits hdigits] at h
    obtain rfl := Except.ok.inj h
    exact isBytes32Text_of_digits hdigits
  · rw [digestToBytes32, if_neg hdigits] at h
    exact nomatch h

theorem canonical_loaded (h : canonicalDirectAdmissionConfiguration c = .ok configuration) :
    c.loadCanonicalRecourseConfiguration = some configuration := by
  simp only [canonicalDirectAdmissionConfiguration, revertIf_bind_ok_iff, require_ok_iff] at h
  exact h.2.2

/-- What is handed out has the right digits. -/
theorem Challenged.spelled (h : Challenged c role claim nonce t message)
    (hdocumented : Documented c) (hnonce : isBytes32Text nonce.text = true) :
    WellSpelled message where
  fheCaseId := by
    obtain ⟨_, hdigest, heq⟩ := h.fheCaseId
    exact heq ▸ isBytes32Text_of_digest hdigest
  protectionBindingDigest := by
    obtain ⟨_, hdigest, heq⟩ := h.binding
    exact heq ▸ isBytes32Text_of_digest hdigest
  assetIdentityDigest := by
    obtain ⟨_, hdigest, heq⟩ := h.asset
    exact heq ▸ isBytes32Text_of_digest hdigest
  authorizationNonce := h.nonce ▸ hnonce
  participantSigningKeyDigest := by
    obtain ⟨_, hdigest, heq⟩ := h.key
    simp only [participantSigningKeyDigest, revertIf_bind_ok_iff, pure_ok_iff] at hdigest
    obtain ⟨-, rfl⟩ := hdigest
    exact heq ▸ isBytes32Text_of_digits (hdocumented.sha256Bytes _)
  participantWallet := by
    obtain ⟨configuration, hconfigured, heq⟩ := h.configured
    exact heq ▸ hdocumented.holder configuration (canonical_loaded hconfigured) role

/-- The bounds that a claim was checked for. -/
theorem exactInstant_bounds {value : Option Json} {code label : String} {instant : ℤ}
    (h : exactInstant value code label = .ok instant) :
    0 ≤ instant ∧ instant ≤ Number.maxSafeInteger := by
  have hwas := exactInstant_ok h
  subst hwas
  simp only [exactInstant, revertIf_bind_ok_iff, Number.lt, Bool.and_eq_true, Bool.not_eq_true',
    ← Bool.not_eq_true, le_ofInt, pure_ok_iff] at h
  omega

theorem claim_bounds (h : assertSupervisedPledgeWindow claim role = .ok window) :
    claim.get "activeFrom" = some (.number (.ofInt window.activeFrom)) ∧ 0 ≤ window.activeFrom ∧
      window.activeFrom < window.activeUntil ∧ window.activeUntil ≤ Number.maxSafeInteger := by
  simp only [assertSupervisedPledgeWindow, bind_ok_iff, revertIf_ok_iff, exists_const,
    pure_ok_iff, not_le] at h
  obtain ⟨-, activeFrom, hfrom, activeUntil, huntil, horder, rfl⟩ := h
  exact ⟨exactInstant_ok hfrom, (exactInstant_bounds hfrom).1, horder,
    (exactInstant_bounds huntil).2⟩

/-- A claim always has its commitment. -/
theorem participantClaimCommitment_spelled (hdocumented : Documented c) (runId : Text)
    (role : ParticipantRole) (activeFrom activeUntil : ℤ) :
    ∃ commitment, participantClaimCommitment c.runtime runId role activeFrom activeUntil =
      .ok commitment ∧ isBytes32Text commitment.text = true := by
  obtain ⟨encoded, hencoded⟩ := @canonical_of_isFinite c.runtime.numberText (.object
    [(lit "runId", .text runId), (lit "role", .text (lit role.text)),
      (lit "activeFrom", .number (.ofInt activeFrom)),
      (lit "activeUntil", .number (.ofInt activeUntil))]) (lit "$") rfl
  have hdigits := hdocumented.sha256 (lit "MordantParticipantClaim/v1" ++ [0] ++ encoded)
  simp only [participantClaimCommitment, sha256Digest, bind_ok_iff, mapError_ok_iff, pure_ok_iff]
  refine ⟨_, ⟨_, ⟨encoded, hencoded, rfl⟩, digestToBytes32_of_digits ?_⟩, ?_⟩
  · exact hdigits
  · exact isBytes32Text_of_digits hdigits

/-- What is submitted in a good time is a candidate for the ledger. -/
theorem admissionCandidate_of_challenged (hdocumented : Documented c)
    (hchallenged : Challenged c role claim nonce t message)
    (hconfigured : canonicalDirectAdmissionConfiguration c = .ok configuration)
    (hwindow : assertSupervisedPledgeWindow claim role = .ok window)
    (hparsed : assertParticipantAdmissionV2Message message.json = .ok message)
    (hnonce : isBytes32Text nonce.text = true) (h : SubmittedUnchanged c later role
      (participantAdmissionV2TypedData c.runtime message (.ofInt monadTestnetChainId)) message
      signature t now) :
    ∃ candidate verdict, AdmissionChecked c configuration
      ⟨role, message.json, .text signature, claim⟩ window
      (c.admissionContext role role.expectedStage) now message verdict candidate := by
  obtain ⟨loaded, hloaded, hwallet⟩ := hchallenged.configured
  obtain rfl := Except.ok.inj (hloaded.symm.trans hconfigured)
  obtain ⟨asked, hasked, hfrom, huntil⟩ := hchallenged.claimed
  obtain rfl := Except.ok.inj (hasked.symm.trans hwindow)
  obtain ⟨fheCaseId, hcase, hcaseText⟩ := hchallenged.fheCaseId
  obtain ⟨binding, hbinding, hbindingText⟩ := hchallenged.binding
  obtain ⟨asset, hasset, hassetText⟩ := hchallenged.asset
  obtain ⟨key, hkey, hkeyText⟩ := hchallenged.key
  obtain ⟨digest, hdigest⟩ := h.hashed
  obtain ⟨verdict, hpolicy, heligible, hholder, -⟩ := h.passes
  obtain ⟨commitment, hcommitment, -⟩ := participantClaimCommitment_spelled hdocumented c.runId
    message.role asked.activeFrom asked.activeUntil
  have hspelled := hchallenged.spelled hdocumented hnonce
  have hsignature : lit "0x" <+: signature := by
    have hformat := h.format
    simp only [isSignatureText, Bool.and_eq_true, decide_eq_true_eq] at hformat
    exact hformat.1.1.1
  refine ⟨{ runId := c.runId
            authorization := some message.json
            signature := some ⟨signature, hsignature⟩
            role := role
            participantWallet := ⟨message.participantWallet,
              matchesDigits_prefix hspelled.participantWallet⟩
            authorizationDigest := digest
            claimCommitment := commitment
            authorizationNonce := ⟨message.authorizationNonce,
              matchesDigits_prefix hspelled.authorizationNonce⟩
            chainId := .ofInt monadTestnetChainId
            issuedAt := .ofInt message.issuedAt
            expiresAt := .ofInt message.expiresAt
            participantSigningKeyDigest := some key
            eligibilityBlock := verdict.observedBlock
            admittedAtUnix := .ofInt now }, verdict, ?_⟩
  constructor
  case parsed => exact hparsed
  case verified =>
    refine ⟨fheCaseId, binding, asset, key, hcase, hbinding, hasset, ?_, rfl⟩
    constructor
    case service => exact hchallenged.service
    case role => exact hchallenged.role
    case runId => exact hchallenged.runId
    case fheCaseId => exact hcaseText
    case binding => exact hbindingText
    case asset => exact hassetText
    case activeFrom => exact hfrom
    case activeUntil => exact huntil
    case issued => exact hchallenged.issuedAt.le.trans h.after
    case unexpired => exact h.before.trans hchallenged.expiresAt.ge
    case published => exact hkey
    case key => exact hkeyText
    case signed => exact ⟨signature, rfl, h.format, h.signed⟩
  case digest => exact hdigest
  case commitment => exact hcommitment
  case canonical => exact congrArg _ hwallet
  case policy => exact hpolicy
  case eligible => exact heligible
  case holder => exact hholder
  case signature => exact ⟨_, rfl, rfl⟩
  all_goals rfl

/-- Its record passes the check of the ledger. -/
theorem record_formed {request : AdmissionRequest} {context : ParticipantAdmissionContext}
    {verdict : ApassVerdict} (hdocumented : Documented c)
    (hchecked : AdmissionChecked c configuration request window context now message verdict
      candidate) (hspelled : WellSpelled message) (hissued : IsAdmissionTime message.issuedAt)
    (hexpires : IsAdmissionTime message.expiresAt) (hwindow : message.issuedAt < message.expiresAt)
    (hnow : IsAdmissionTime now) (hblock : verdict.observedBlock.isSafeInteger = true)
    (hpositive : verdict.observedBlock.lt (.ofInt 0) = false) :
    assertAdmissionRecord ⟨candidate, participantAdmissionRecordSchema⟩ candidate.runId
      candidate.role = .ok () := by
  have hsafe : ∀ {n : ℤ}, IsAdmissionTime n → (Number.ofInt n).isSafeInteger = true := by
    intro n hn
    have hmax : Number.maxSafeInteger.natAbs = 9007199254740991 := rfl
    have hmax' : Number.maxSafeInteger = 9007199254740991 := rfl
    have := hn.1
    have := hn.2
    exact isSafeInteger_ofInt.mpr (by omega)
  have hpos : ∀ {n : ℤ}, IsAdmissionTime n → ¬ (Number.ofInt n).le (.ofInt 0) = true := by
    intro n hn hle
    exact absurd (le_ofInt.mp hle) hn.1.not_ge
  obtain ⟨commitment, hcommitment, hcommitted⟩ := participantClaimCommitment_spelled hdocumented
    c.runId message.role window.activeFrom window.activeUntil
  obtain rfl := Except.ok.inj (hcommitment.symm.trans hchecked.commitment)
  rw [assertAdmissionRecord, revertIf_ok_iff]
  simp only [hchecked.issuedAt, hchecked.expiresAt, hchecked.admittedAtUnix, hchecked.chainId,
    hchecked.wallet, hchecked.nonce, hchecked.eligibilityBlock, hspelled.participantWallet,
    hspelled.authorizationNonce, hcommitted, hdocumented.hashAdmission _ _ hchecked.digest,
    hsafe hissued, hsafe hexpires, hsafe hnow, hpos hissued, hpos hnow, hblock, hpositive,
    le_ofInt, hwindow.not_ge, ne_eq, not_true_eq_false, false_and, false_or]
  decide

section

variable {runtime : Runtime} {candidate : AdmissionCandidate}
  (hformed : assertAdmissionRecord ⟨candidate, participantAdmissionRecordSchema⟩ candidate.runId
    candidate.role = .ok ())

include hformed

/-- A comes first. -/
theorem prepareRecord_first (hrole : candidate.role = .participantA) :
    prepareRecord runtime candidate none = .ok ⟨candidate, participantAdmissionRecordSchema⟩ := by
  simp only [prepareRecord, bind_ok_iff, exists_unit, revertIf_ok_iff, pure_ok_iff]
  have hfirst : candidate.role ≠ .participantB := fun h => by cases hrole.symm.trans h
  exact ⟨fun h => hfirst h.1, fun h => Bool.false_ne_true h.2, hformed, trivial⟩

/-- B comes second, with a wallet and a nonce of its own. -/
theorem prepareRecord_second {first : ParticipantAdmissionRecord}
    (hrole : candidate.role = .participantB)
    (hwallet : runtime.toLowerCase first.participantWallet.text ≠
      runtime.toLowerCase candidate.participantWallet.text)
    (hnonce : first.authorizationNonce ≠ candidate.authorizationNonce) :
    prepareRecord runtime candidate (some first) =
      .ok ⟨candidate, participantAdmissionRecordSchema⟩ := by
  simp only [prepareRecord, bind_ok_iff, exists_unit, revertIf_ok_iff, pure_ok_iff]
  have hsecond : candidate.role ≠ .participantA := fun h => by cases hrole.symm.trans h
  exact ⟨fun h => Bool.false_ne_true h.2, fun h => hsecond h.1, hwallet, hnonce, hformed, trivial⟩

end

/-- The record of a role names its holder. -/
theorem record_holder {files : CaseDisk} {record : ParticipantAdmissionRecord}
    (h : CaseInvariant c files) (hfile : files.files role = .complete record)
    (hconfigured : canonicalDirectAdmissionConfiguration c = .ok configuration) :
    c.runtime.toLowerCase record.participantWallet.text =
      c.runtime.toLowerCase (configuration.holder role).text := by
  obtain ⟨request, loaded, window, stage, before, hadmitted⟩ := h.records.admitted hfile
  obtain rfl := Except.ok.inj (hadmitted.configured.symm.trans hconfigured)
  obtain ⟨message, verdict, hchecked⟩ := admissionCandidate_ok_iff.mp hadmitted.candidate
  rw [hchecked.wallet, hchecked.canonical, hadmitted.asked]

/-- Where it is a role's turn, the record of the other is not in the way. -/
theorem prepareRecord_of_turn {start : CaseDisk} (hdocumented : Documented c)
    (hstart : CaseInvariant c start) (hbacked : start.Backed)
    (hstage : start.state.stage = candidate.role.expectedStage)
    (hconfigured : canonicalDirectAdmissionConfiguration c = .ok configuration)
    (hwallet : c.runtime.toLowerCase candidate.participantWallet.text =
      c.runtime.toLowerCase (configuration.holder candidate.role).text)
    (hfresh : ∀ record, start.files candidate.role.other = .complete record →
      record.authorizationNonce.text ≠ candidate.authorizationNonce.text)
    (hformed : assertAdmissionRecord ⟨candidate, participantAdmissionRecordSchema⟩ candidate.runId
      candidate.role = .ok ()) :
    prepareRecord c.runtime.toRuntime candidate (start.files candidate.role.other).readJsonOrNull =
      .ok ⟨candidate, participantAdmissionRecordSchema⟩ := by
  cases hrole : candidate.role with
  | participantA =>
      rw [hrole] at hstage
      have hnone : (start.files .participantB).readJsonOrNull = none := by
        cases hfile : start.files .participantB with
        | absent | begun => rfl
        | complete record => exact absurd hstage (hstart.records.turn hfile)
      show prepareRecord _ _ (start.files .participantB).readJsonOrNull = _
      rw [hnone]
      exact prepareRecord_first hformed hrole
  | participantB =>
      rw [hrole] at hstage hwallet hfresh
      obtain ⟨first, hfile⟩ := @record_of_published c start .participantA hstart hbacked
        (fun hnone => nomatch hnone.symm.trans hstage)
      show prepareRecord _ _ (start.files .participantA).readJsonOrNull = _
      rw [hfile]
      apply prepareRecord_second hformed hrole
      · rw [record_holder hstart hfile hconfigured, hwallet]
        exact hdocumented.distinct configuration (canonical_loaded hconfigured)
      · intro hsame
        exact hfresh first hfile (congrArg Hex.text hsame)

/-- The ledger gives a free role to a candidate that it prepares a record for. -/
theorem returns_admitVacantRole {start : CaseDisk} {record : ParticipantAdmissionRecord}
    (hstart : CaseInvariant c start) (hvacant : start.files candidate.role = .absent)
    (hunlocked : start.lock = false) (hprepared : prepareRecord c.runtime.toRuntime candidate
      (start.files candidate.role.other).readJsonOrNull = .ok record) :
    Returns (fun outcome last => outcome = ⟨record, true⟩ ∧
        last.files candidate.role = .complete record)
      (admitParticipantRole c candidate) start := by
  have hlocked : CaseInvariant c { start with lock := true } := ⟨hstart.engine, hstart.records⟩
  simp only [admitParticipantRole, recordRole, returns_bind, Durable.returns_reads,
    pure_ok_iff, exists_eq_left', Durable.returns_throwIf, Durable.returns_modify,
    Durable.returns_thenAlways]
  refine ⟨fun h => absurd (h.symm.trans hunlocked) Bool.true_eq_false.mp, ?_⟩
  apply returns_storedAdmission hlocked
  simp only [hvacant, AdmissionFile.readJsonOrNull, returns_bind]
  apply returns_storedAdmission hlocked
  simp only [hprepared, Durable.returns_lift, mapError_ok_iff, Except.ok.injEq, exists_eq_left',
    Durable.returns_reads, pure_ok_iff, hvacant, returns_bind, Durable.returns_modify,
    Durable.returns_pure, Function.update_self, and_self]

/-- Of a message that was handed out, the parser looks at three things. -/
theorem challenged_parsed_iff {parsed : ParticipantAdmissionV2Message}
    (hchallenged : Challenged c role claim nonce t message) (hspelled : WellSpelled message) :
    assertParticipantAdmissionV2Message message.json = .ok parsed ↔
      (claim.get "activeFrom" ≠ some (.number (.ofInt 0)) ∧ 0 < t ∧
        t + participantChallengeLifetimeSeconds ≤ Number.maxSafeInteger) ∧ parsed = message := by
  obtain ⟨window, hwindow, hfrom, huntil⟩ := hchallenged.claimed
  obtain ⟨hget, hnonnegative, horder, hmax⟩ := claim_bounds hwindow
  have hzero : claim.get "activeFrom" ≠ some (.number (.ofInt 0)) ↔ 0 < window.activeFrom := by
    rw [hget, ne_eq, Option.some.injEq, Json.number.injEq]
    constructor
    · intro hne
      rcases hnonnegative.lt_or_eq with hpos | heq
      · exact hpos
      · exact absurd (congrArg Number.ofInt heq.symm) hne
    · intro hpos heq
      have hsame := congrArg bigIntOf heq
      rw [bigIntOf_ofInt, bigIntOf_ofInt] at hsame
      omega
  rw [assertParticipantAdmissionV2Message_json_iff hspelled, hzero, hfrom, huntil,
    hchallenged.issuedAt, hchallenged.expiresAt]
  simp only [IsAdmissionTime, participantChallengeLifetimeSeconds,
    participantAuthorizationMaxLifetimeSeconds]
  constructor
  · rintro ⟨⟨⟨hpos, -⟩, -, ⟨htime, -⟩, -, hlast⟩, -, rfl⟩
    exact ⟨⟨hpos, htime, hlast⟩, rfl⟩
  · rintro ⟨⟨hpos, htime, hlast⟩, rfl⟩
    refine ⟨⟨⟨hpos, ?_⟩, ⟨?_, hmax⟩, ⟨htime, ?_⟩, ?_, hlast⟩, ⟨?_, ?_, horder⟩, rfl⟩
    all_goals omega

end

namespace Sample

/-- A claim that ends at 2000. -/
def claimFrom (activeFrom : ℤ) : Json :=
  .object [(lit "activeFrom", .number (.ofInt activeFrom)),
    (lit "activeUntil", .number (.ofInt 2000))]

def drawnNonce : Hex :=
  hex "0xe3e3e3e3e3e3e3e3e3e3e3e3e3e3e3e3e3e3e3e3e3e3e3e3e3e3e3e3e3e3e3e3" (by decide)

theorem participantCase_documented : Documented participantCase where
  sha256 text := by
    have hsha : participantCase.runtime.sha256 text = directRuntime.sha256 text := rfl
    rw [hsha]
    simp only [directRuntime]
    split_ifs <;> decide +kernel
  sha256Bytes bytes := by
    have hsha : participantCase.runtime.sha256Bytes bytes = directRuntime.sha256Bytes bytes := rfl
    rw [hsha]
    simp only [directRuntime]
    split_ifs <;> decide +kernel
  hashAdmission typed digest h := by
    have hhash : participantCase.runtime.hashAdmission typed =
        if typed.version = lit "2" then some keyedDigest
        else directRuntime.hashAdmission typed := rfl
    rw [hhash] at h
    simp only [directRuntime] at h
    split_ifs at h <;> obtain rfl := Option.some.inj h <;> decide +kernel
  holder := by
    rintro _ ⟨⟩ role
    cases role <;> decide +kernel
  distinct := by
    rintro _ ⟨⟩
    decide +kernel

/-- A's wallet signs what it is given, and is back in 100 seconds. -/
theorem challenge_submitted {claim : Json} {message : ParticipantAdmissionV2Message}
    (h : Challenged participantCase .participantA claim drawnNonce 1784150000 message) :
    SubmittedUnchanged participantCase (.prepared true) .participantA
      (participantAdmissionV2TypedData participantCase.runtime message (.ofInt monadTestnetChainId))
      message keyedSignature.text 1784150000 1784150100 := by
  obtain ⟨configuration, hconfigured, hwallet⟩ := h.configured
  obtain rfl : directConfiguration = configuration := Option.some.inj (canonical_loaded hconfigured)
  constructor
  case reached => exact .prepared true
  case after => decide
  case before => decide
  case context => exact ⟨_, rfl, rfl⟩
  case vacant => rfl
  case unlocked => rfl
  case fresh => exact fun _ h => nomatch h
  case format => decide +kernel
  case signed =>
    rw [hwallet]
    rfl
  case hashed => exact ⟨keyedDigest, rfl⟩
  case passes =>
    rw [hwallet]
    exact ⟨_, rfl, rfl, rfl, by decide, by decide⟩

end Sample

/-- **Which challenges are admissible.** A message that was handed out to be signed, and comes
back signed and in time to a case that waits for it as it did, is read, verified and gets its
role, exactly when the claim does not start at zero and the clock is one of positive safe
integers. -/
theorem challenge_admits_iff (c : ParticipantCase) (disk later : CaseDisk)
    (role : ParticipantRole) (wallet : Text) (claim : Json) (nonce : Hex) (t now : ℤ)
    (typed : AdmissionTypedData) (message : ParticipantAdmissionV2Message) (signature : Text)
    (hdocumented : Documented c) (hnonce : isBytes32Text nonce.text = true)
    (hreached : Reached c disk)
    (hissued : (participantAdmissionChallenge c role wallet claim nonce t disk).result = .ok typed)
    (hmessage : typed.message = .v2 message)
    (hsubmitted : SubmittedUnchanged c later role typed message signature t now) :
    AdmitsRole c ⟨role, message.json, .text signature, claim⟩ now later ↔
      claim.get "activeFrom" ≠ some (.number (.ofInt 0)) ∧ 0 < t ∧
        t + participantChallengeLifetimeSeconds ≤ Number.maxSafeInteger := by
  obtain ⟨_, hchallenged, rfl⟩ := (challenge_meets hreached.invariant).2 typed hissued
  obtain rfl := AdmissionMessage.v2.inj hmessage
  have hspelled := hchallenged.spelled hdocumented hnonce
  constructor
  · rintro ⟨_, -, _, _, parsed, _, -, -, hparsed, -⟩
    exact ((challenged_parsed_iff hchallenged hspelled).mp hparsed).1
  · intro hcondition
    have hparsed := (challenged_parsed_iff hchallenged hspelled).mpr ⟨hcondition, rfl⟩
    obtain ⟨⟨-, -, hstart, hend⟩, ⟨horder, -⟩, -⟩ :=
      (assertParticipantAdmissionV2Message_json_iff hspelled).mp hparsed
    obtain ⟨configuration, hconfigured, hwallet⟩ := hchallenged.configured
    obtain ⟨window, hwindow, -⟩ := hchallenged.claimed
    obtain ⟨candidate, verdict, hchecked⟩ := admissionCandidate_of_challenged hdocumented
      hchallenged hconfigured hwindow hparsed hnonce hsubmitted
    have hlater := hsubmitted.reached.invariant
    obtain ⟨hread, halone⟩ := reconciled_spec hlater false
    have hrole : candidate.role = role := hchecked.role
    have hnow : IsAdmissionTime now := by
      have hafter := hsubmitted.after
      have hbefore := hsubmitted.before
      have hstarts := hchallenged.issuedAt ▸ hstart.1
      have hends := hchallenged.expiresAt ▸ hend.2
      exact ⟨hstarts.trans_le hafter, hbefore.trans hends⟩
    obtain ⟨_, hpolicy, -, -, hblock, hpositive⟩ := hsubmitted.passes
    obtain rfl := Option.some.inj (hpolicy.symm.trans hchecked.policy)
    have hformed := record_formed hdocumented hchecked hspelled hstart hend horder hnow hblock
      hpositive
    have hbacked : (later.reconciled false).Backed :=
      hsubmitted.reached.backed.of_eq halone.objects halone.claims
    apply (hsubmitted.context.and (context_meets hlater)).mono
    rintro context next ⟨rfl, -, rfl, -, hstage⟩
    refine ⟨configuration, window, _, candidate, hconfigured, hwindow, hparsed,
      admissionCandidate_ok_iff.mpr ⟨_, _, hchecked⟩, ?_⟩
    have hexpected := (congrArg ParticipantAdmissionContext.stage hstage).symm
    have hprepared := prepareRecord_of_turn hdocumented hread hbacked
      (hrole ▸ hexpected) hconfigured (by rw [hchecked.wallet, hwallet, hrole]) (by
        rw [hrole, halone.files, hchecked.nonce]
        exact hsubmitted.fresh) hformed
    have hvacant : (later.reconciled false).files candidate.role = .absent := by
      rw [hrole, halone.files]
      exact hsubmitted.vacant
    apply (returns_admitVacantRole hread hvacant (halone.lock.trans hsubmitted.unlocked)
      hprepared).mono
    rintro outcome last ⟨rfl, hfile⟩
    exact ⟨rfl, rfl, hrole ▸ hfile⟩

theorem challenge_admits_sample : ∃ typed message,
    (participantAdmissionChallenge Sample.participantCase .participantA Sample.walletA.text
      (Sample.claimFrom 1000) Sample.drawnNonce 1784150000 (.prepared true)).result = .ok typed ∧
    typed.message = .v2 message ∧
    (AdmitsRole Sample.participantCase
        ⟨.participantA, message.json, .text Sample.keyedSignature.text, Sample.claimFrom 1000⟩
        1784150100 (.prepared true) ↔
      (Sample.claimFrom 1000).get "activeFrom" ≠ some (.number (.ofInt 0)) ∧ 0 < (1784150000 : ℤ) ∧
        1784150000 + participantChallengeLifetimeSeconds ≤ Number.maxSafeInteger) := by
  obtain ⟨typed, hissued⟩ := toBool_eq_true_iff.mp (show ((participantAdmissionChallenge
    Sample.participantCase .participantA Sample.walletA.text (Sample.claimFrom 1000)
    Sample.drawnNonce 1784150000 (.prepared true)).result).toBool = true by decide +kernel)
  obtain ⟨message, hchallenged, rfl⟩ := (challenge_meets (.prepared _ true)).2 typed hissued
  exact ⟨_, message, hissued, rfl, challenge_admits_iff _ _ _ _ _ _ _ _ _ _ _ _
    Sample.participantCase_documented (by decide +kernel) (.prepared true) hissued rfl
    (Sample.challenge_submitted hchallenged)⟩

/-- A claim from zero is accepted and handed out to be signed, and is not accepted when it comes
back. -/
theorem challenge_not_always_admissible :
    ¬ ∀ (c : ParticipantCase) (disk later : CaseDisk) (role : ParticipantRole) (wallet : Text)
      (claim : Json) (nonce : Hex) (t now : ℤ) (typed : AdmissionTypedData)
      (message : ParticipantAdmissionV2Message) (signature : Text), Documented c →
      isBytes32Text nonce.text = true → Reached c disk →
      (participantAdmissionChallenge c role wallet claim nonce t disk).result = .ok typed →
      typed.message = .v2 message →
      SubmittedUnchanged c later role typed message signature t now →
      AdmitsRole c ⟨role, message.json, .text signature, claim⟩ now later := by
  intro hclaim
  obtain ⟨typed, hissued⟩ := toBool_eq_true_iff.mp (show ((participantAdmissionChallenge
    Sample.participantCase .participantA Sample.walletA.text (Sample.claimFrom 0)
    Sample.drawnNonce 1784150000 (.prepared true)).result).toBool = true by decide +kernel)
  obtain ⟨message, hchallenged, rfl⟩ := (challenge_meets (.prepared _ true)).2 typed hissued
  obtain ⟨_, -, _, _, parsed, _, -, -, hparsed, -⟩ := hclaim _ _ _ _ _ _ _ _ _ _ _ _
    Sample.participantCase_documented (by decide +kernel) (.prepared true) hissued rfl
    (Sample.challenge_submitted hchallenged)
  have hspelled := hchallenged.spelled Sample.participantCase_documented (by decide +kernel)
  exact ((challenged_parsed_iff hchallenged hspelled).mp hparsed).1.1 rfl

end Mordant.Protection