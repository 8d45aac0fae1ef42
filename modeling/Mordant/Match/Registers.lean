/-
# What the registries remember

An authorization record, a session commitment and a source commitment are each
written once, by one call, with the number of the block that call was in.  Later
calls close, revoke, consume or reveal an entry; none of them rewrites who it is
about or when it was made.  So whatever a registry holds is traced back to one
call of the run, block and caller included.
-/

import Mordant.Match.System

namespace Mordant.Match

open Evm Foundation
open Function (update_self update_of_ne)

/-- What is fixed when a record is written. -/
def ScopeAuthorization.stamp (r : ScopeAuthorization) :
    Bool × Bytes32 × Address × Bytes32 × ℕ :=
  (r.isRecorded, r.scopeCommitment, r.controller, r.organizationId, r.validFromBlock)

/-- What is fixed when a session is committed. -/
def SessionCommitment.stamp (c : SessionCommitment) : Bool × ℕ × Address :=
  (c.isCommitted, c.committedInBlock, c.submitter)

/-- The stamps one call leaves in the governance registry: all of them, but for
the entry it writes. -/
structure GovernanceStamps (g g' : GovernanceState)
    (written : Bytes32 → ScopeAuthorization → Prop)
    (committed : Bytes32 → SessionCommitment → Prop) : Prop where
  records : ∀ digest, (g'.records digest).stamp = (g.records digest).stamp ∨
    written digest (g'.records digest)
  commitments : ∀ key, (g'.commitments key).stamp = (g.commitments key).stamp ∨
    committed key (g'.commitments key)

/-- A call that writes no new entry. -/
abbrev GovernanceKept (g g' : GovernanceState) : Prop :=
  GovernanceStamps g g' (fun _ _ => False) fun _ _ => False

/-- The stamps one call leaves in the source registry. -/
def SourceStamps (r r' : SourceState) (committed : Bytes32 → SourceCommitment → Prop) : Prop :=
  ∀ key, (r'.commitments key).stamp = (r.commitments key).stamp ∨
    committed key (r'.commitments key)

/-- A call that commits no new source. -/
abbrev SourcesKept (r r' : SourceState) : Prop := SourceStamps r r' fun _ _ => False

theorem GovernanceKept.refl (g : GovernanceState) : GovernanceKept g g :=
  ⟨fun _ => .inl rfl, fun _ => .inl rfl⟩

/-- Writing nothing is writing anything. -/
theorem GovernanceKept.weaken {g g' : GovernanceState}
    {written : Bytes32 → ScopeAuthorization → Prop} {committed : Bytes32 → SessionCommitment → Prop}
    (h : GovernanceKept g g') : GovernanceStamps g g' written committed :=
  ⟨fun digest => .inl ((h.records digest).resolve_right id),
    fun key => .inl ((h.commitments key).resolve_right id)⟩

theorem SourcesKept.refl (r : SourceState) : SourcesKept r r := fun _ => .inl rfl

theorem SourcesKept.stamp {r r' : SourceState} (h : SourcesKept r r') (key : Bytes32) :
    (r'.commitments key).stamp = (r.commitments key).stamp :=
  (h key).resolve_right id

theorem SourcesKept.trans {r₁ r₂ r₃ : SourceState} (h : SourcesKept r₁ r₂)
    (h' : SourcesKept r₂ r₃) : SourcesKept r₁ r₃ :=
  fun key => .inl ((h'.stamp key).trans (h.stamp key))

/-- Overwriting one entry keeps the stamps when the new entry has the old stamp. -/
theorem stamp_update {α β : Type} (stamp : α → β) (table : Bytes32 → α) (key : Bytes32)
    {entry : α} (hstamp : stamp entry = stamp (table key)) (other : Bytes32) :
    stamp (Function.update table key entry other) = stamp (table other) := by
  by_cases hsame : other = key
  · subst hsame
    rw [update_self, hstamp]
  · rw [update_of_ne hsame]

section

variable {crypto : Crypto} {self : Address} {g g' : GovernanceState} {r r' : SourceState} {tx : Tx}
  {digest : Bytes32} {allowed : Bool}

theorem authorize_stamps {request : AuthorizationRequest}
    (h : Governance.authorize crypto self g tx request = .ok (digest, g')) :
    GovernanceStamps g g'
      (fun key entry =>
        key = Governance.recordDigestOf crypto self tx request (toUint64 tx.blockNumber) ∧
        entry.stamp = (true, request.scopeCommitment, request.controller, request.organizationId,
          toUint64 tx.blockNumber))
      fun _ _ => False := by
  simp only [Governance.authorize, bind_ok_iff, pure_ok_iff, Prod.mk.injEq] at h
  obtain ⟨-, -, -, -, -, -, -, -, -, -, -, -, rfl, rfl⟩ := h
  refine ⟨fun key => ?_, fun _ => .inl rfl⟩
  by_cases hsame :
      key = Governance.recordDigestOf crypto self tx request (toUint64 tx.blockNumber)
  · subst hsame
    refine .inr ⟨rfl, ?_⟩
    simp only [update_self, ScopeAuthorization.stamp]
  · simp only [update_of_ne hsame, true_or]

theorem retire_kept (h : Governance.retire g tx digest = .ok g') :
    GovernanceKept g g' := by
  simp only [Governance.retire, bind_ok_iff, pure_ok_iff] at h
  obtain ⟨-, -, -, -, -, -, rfl⟩ := h
  exact ⟨fun key => .inl (stamp_update _ _ _ (by rfl) key), fun _ => .inl rfl⟩

theorem emergencyRevoke_kept
    (h : Governance.emergencyRevoke g tx digest = .ok g') : GovernanceKept g g' := by
  simp only [Governance.emergencyRevoke, bind_ok_iff, pure_ok_iff] at h
  obtain ⟨-, -, -, -, -, -, rfl⟩ := h
  exact ⟨fun key => .inl (stamp_update _ _ _ (by rfl) key), fun _ => .inl rfl⟩

theorem setAuthorizedRelayer_kept {relayer : Address}
    (h : Governance.setAuthorizedRelayer g tx relayer allowed = .ok g') : GovernanceKept g g' := by
  simp only [Governance.setAuthorizedRelayer, bind_ok_iff, pure_ok_iff] at h
  obtain ⟨-, -, -, -, rfl⟩ := h
  exact ⟨fun _ => .inl rfl, fun _ => .inl rfl⟩

theorem setAuthorizedBinder_kept {binder : Address}
    (h : Governance.setAuthorizedBinder g tx binder allowed = .ok g') : GovernanceKept g g' := by
  simp only [Governance.setAuthorizedBinder, bind_ok_iff, pure_ok_iff] at h
  obtain ⟨-, -, -, -, rfl⟩ := h
  exact ⟨fun _ => .inl rfl, fun _ => .inl rfl⟩

theorem commitSession_stamps {commitment nullifier : Bytes32}
    (h : Governance.commitSession g tx commitment nullifier = .ok g') :
    GovernanceStamps g g' (fun _ _ => False) fun key entry =>
      key = commitment ∧ entry.stamp = (true, toUint64 tx.blockNumber, tx.sender) := by
  simp only [Governance.commitSession, bind_ok_iff, pure_ok_iff] at h
  obtain ⟨-, -, -, -, -, -, -, -, rfl⟩ := h
  refine ⟨fun _ => .inl rfl, fun key => ?_⟩
  by_cases hsame : key = commitment
  · subst hsame
    refine .inr ⟨rfl, ?_⟩
    simp only [update_self, SessionCommitment.stamp]
  · simp only [update_of_ne hsame, true_or]

theorem resolveSession_kept {intent : SessionIntent} {salt : Bytes32}
    {signatures : InitiationSignatures} {session : ResolvedSession}
    (h : Governance.resolveSession crypto self g tx intent salt signatures = .ok (session, g')) :
    GovernanceKept g g' := by
  simp only [Governance.resolveSession, bind_ok_iff, pure_ok_iff, Prod.mk.injEq] at h
  obtain ⟨-, -, -, -, -, -, -, -, -, -, -, -, -, -, ⟨controllerA, controllerB⟩, -, -, -, -, -, -,
    rfl⟩ := h
  exact ⟨fun _ => .inl rfl, fun key => .inl (stamp_update _ _ _ (by rfl) key)⟩

theorem setAuthorizedSubmitter_kept {submitter : Address}
    (h : Sources.setAuthorizedSubmitter r tx submitter allowed = .ok r') : SourcesKept r r' := by
  simp only [Sources.setAuthorizedSubmitter, bind_ok_iff, pure_ok_iff] at h
  obtain ⟨-, -, -, -, rfl⟩ := h
  exact SourcesKept.refl r

theorem setAuthorizedRevealer_kept {revealer : Address}
    (h : Sources.setAuthorizedRevealer r tx revealer allowed = .ok r') : SourcesKept r r' := by
  simp only [Sources.setAuthorizedRevealer, bind_ok_iff, pure_ok_iff] at h
  obtain ⟨-, -, -, -, rfl⟩ := h
  exact SourcesKept.refl r

theorem commitSource_stamps {commitment : Bytes32}
    (h : Sources.commitSource r tx commitment = .ok r') :
    SourceStamps r r' fun key entry =>
      key = commitment ∧ entry.stamp = (true, toUint64 tx.blockNumber) := by
  simp only [Sources.commitSource, bind_ok_iff, pure_ok_iff] at h
  obtain ⟨-, -, -, -, -, -, rfl⟩ := h
  intro key
  by_cases hsame : key = commitment
  · subst hsame
    refine .inr ⟨rfl, ?_⟩
    simp only [update_self, SourceCommitment.stamp]
  · simp only [update_of_ne hsame, true_or]

theorem revealSource_kept {issuers : IssuerState} {attestation : SourceAttestation}
    {issuerSignature : Bytes} {salt : Bytes32} {revealed : RevealedSource}
    (h : Sources.revealSource crypto self r issuers tx attestation issuerSignature salt =
      .ok (revealed, r')) : SourcesKept r r' := by
  simp only [Sources.revealSource, bind_ok_iff, pure_ok_iff, Prod.mk.injEq] at h
  obtain ⟨-, -, -, -, -, -, -, -, -, -, -, -, -, -, ⟨signer, digest⟩, -, -, -, -, -, -, rfl⟩ := h
  exact fun key => .inl (stamp_update _ _ _ (by rfl) key)

end

/-! ## Histories -/

section

variable {W : Type}

/-- Everything the registries and the binder hold was put there by a call of the
run so far. -/
structure Recorded (crypto : Crypto) (d : Deployment) (events : List (Event W)) (s : System W) :
    Prop where
  record : ∀ digest, (s.governance.records digest).isRecorded = true →
    ∃ tx request, .call tx (.authorize request) ∈ events ∧
      digest = Governance.recordDigestOf crypto d.governance tx request
        (toUint64 tx.blockNumber) ∧
      (s.governance.records digest).stamp = (true, request.scopeCommitment, request.controller,
        request.organizationId, toUint64 tx.blockNumber)
  session : ∀ key, (s.governance.commitments key).isCommitted = true →
    ∃ tx nullifier, .call tx (.commitSession key nullifier) ∈ events ∧
      (s.governance.commitments key).stamp = (true, toUint64 tx.blockNumber, tx.sender)
  source : ∀ key, (s.sources.commitments key).isCommitted = true →
    ∃ tx, .call tx (.commitSource key) ∈ events ∧
      (s.sources.commitments key).stamp = (true, toUint64 tx.blockNumber)
  recourse : ∀ key, (s.binder.recourses key).isOpen = true →
    ∃ before tx request after, events = before ++ .call tx (.bindRecourse request) :: after ∧
      request.envelope.core.session.sessionCommitment = key ∧
      (s.binder.recourses key).anchor = request.anchor

/-- What one event adds to the registries and the binder. -/
structure Adds (crypto : Crypto) (d : Deployment) (event : Event W) (s s' : System W) : Prop where
  governance : GovernanceStamps s.governance s'.governance
    (fun digest entry => ∃ tx request, event = .call tx (.authorize request) ∧
      digest = Governance.recordDigestOf crypto d.governance tx request
        (toUint64 tx.blockNumber) ∧
      entry.stamp = (true, request.scopeCommitment, request.controller, request.organizationId,
        toUint64 tx.blockNumber))
    fun key entry => ∃ tx nullifier, event = .call tx (.commitSession key nullifier) ∧
      entry.stamp = (true, toUint64 tx.blockNumber, tx.sender)
  sources : SourceStamps s.sources s'.sources fun key entry =>
    ∃ tx, event = .call tx (.commitSource key) ∧ entry.stamp = (true, toUint64 tx.blockNumber)
  binder : ∀ key, s'.binder.recourses key = s.binder.recourses key ∨
    ∃ tx request, event = .call tx (.bindRecourse request) ∧
      request.envelope.core.session.sessionCommitment = key ∧
      (s'.binder.recourses key).anchor = request.anchor

variable {crypto : Crypto} {env : Externals W} {d : Deployment} {s s' : System W} {tx : Tx}
  {event : Event W}

/-- An event that writes no new entry and opens no recourse. -/
theorem Adds.of_kept (hgovernance : GovernanceKept s.governance s'.governance)
    (hsources : SourcesKept s.sources s'.sources) (hbinder : s'.binder = s.binder) :
    Adds crypto d event s s' where
  governance := hgovernance.weaken
  sources := fun key => .inl (hsources.stamp key)
  binder := fun key => .inl (by rw [hbinder])

/-- What opening both commitments of a bind keeps. -/
theorem Binder.resolve_kept {r : Binder.BindRequest} {context : Binder.OpenContext}
    (h : Binder.resolve crypto d s tx r = .ok (context, s')) :
    GovernanceKept s.governance s'.governance ∧ SourcesKept s.sources s'.sources ∧
      s'.binder = s.binder := by
  simp only [Binder.resolve, bind_ok_iff, pure_ok_iff, Prod.mk.injEq] at h
  obtain ⟨⟨session, governance⟩, hsession, -, -, ⟨anchored, sources⟩, hanchored,
    ⟨counterparty, sources'⟩, hcounterparty, -, rfl⟩ := h
  exact ⟨resolveSession_kept hsession,
    (revealSource_kept hanchored).trans (revealSource_kept hcounterparty), rfl⟩

theorem requireBilateralConsent_recourses {b b' : BinderState} {core : ResultCore}
    {commitment : Bytes32} {anchor : Address} {session : ResolvedSession}
    {consentA consentB : DisclosureConsent}
    (h : Binder.requireBilateralConsent crypto d b tx core commitment anchor session consentA
      consentB = .ok b') : b'.recourses = b.recourses := by
  simp only [Binder.requireBilateralConsent, Binder.requireConsent, bind_ok_iff, pure_ok_iff] at h
  obtain ⟨_, ⟨-, -, -, -, -, -, -, -, -, -, -, -, -, -, rfl⟩,
    -, -, -, -, -, -, -, -, -, -, -, -, -, -, rfl⟩ := h
  rfl

/-- A bind adds one recourse, under the session of its result, and nothing else. -/
theorem bindRecourse_adds {r : Binder.BindRequest} {commitment : Bytes32}
    (h : Binder.bindRecourse crypto env d s tx r = .ok (commitment, s')) :
    Adds crypto d (.call tx (.bindRecourse r)) s s' := by
  simp only [Binder.bindRecourse, bind_ok_iff, pure_ok_iff, Prod.mk.injEq] at h
  obtain ⟨-, -, -, -, -, -, -, -, -, -, ⟨_, verifier⟩, -, -, -, -, -, -, -, s₂, hopen, -, rfl⟩ := h
  simp only [Binder.openRecourse, bind_ok_iff, pure_ok_iff] at hopen
  obtain ⟨⟨context, s₃⟩, hresolve, -, -, -, -, b, hconsent, -, -, rfl⟩ := hopen
  obtain ⟨hgovernance, hsources, hbinder⟩ := Binder.resolve_kept hresolve
  refine ⟨hgovernance.weaken, fun key => .inl (hsources.stamp key), fun key => ?_⟩
  by_cases hsame : key = r.envelope.core.session.sessionCommitment
  · subst hsame
    refine .inr ⟨tx, r, rfl, rfl, ?_⟩
    simp only [update_self]
  · left
    have hrecourses := requireBilateralConsent_recourses hconsent
    simp only [update_of_ne hsame, hrecourses, hbinder]

/-- **Step.** Every call adds at most the entry it is named after. -/
theorem perform_adds {call : Call} (h : call.perform crypto env d s tx = .ok s') :
    Adds crypto d (.call tx call) s s' := by
  cases call with
  | registerIssuer | revokeIssuer | advanceEpoch | transferOwnership | renounceOwnership =>
      obtain ⟨-, -, rfl⟩ := map_ok_iff.mp h
      exact Adds.of_kept (GovernanceKept.refl _) (SourcesKept.refl _) rfl
  | setPolicyVersion | acceptMatch =>
      obtain ⟨-, -, rfl⟩ := map_ok_iff.mp h
      exact Adds.of_kept (GovernanceKept.refl _) (SourcesKept.refl _) rfl
  | authorize request =>
      obtain ⟨_, hrecord, rfl⟩ := map_ok_iff.mp h
      obtain ⟨⟨digest, g⟩, hauthorize, rfl⟩ := map_ok_iff.mp hrecord
      have hstamps := authorize_stamps hauthorize
      refine ⟨⟨fun key => ?_, fun key => .inl ((hstamps.commitments key).resolve_right id)⟩,
        fun _ => .inl rfl, fun _ => .inl rfl⟩
      exact (hstamps.records key).imp_right fun hwritten => ⟨tx, request, rfl, hwritten⟩
  | commitSession commitment nullifier =>
      obtain ⟨_, hcommit, rfl⟩ := map_ok_iff.mp h
      have hstamps := commitSession_stamps hcommit
      refine ⟨⟨fun key => .inl ((hstamps.records key).resolve_right id), fun key => ?_⟩,
        fun _ => .inl rfl, fun _ => .inl rfl⟩
      refine (hstamps.commitments key).imp_right fun hcommitted => ?_
      obtain ⟨rfl, hstamp⟩ := hcommitted
      exact ⟨tx, nullifier, rfl, hstamp⟩
  | retire =>
      obtain ⟨_, hretire, rfl⟩ := map_ok_iff.mp h
      exact Adds.of_kept (retire_kept hretire) (SourcesKept.refl _) rfl
  | emergencyRevoke =>
      obtain ⟨_, hrevoke, rfl⟩ := map_ok_iff.mp h
      exact Adds.of_kept (emergencyRevoke_kept hrevoke) (SourcesKept.refl _) rfl
  | setAuthorizedRelayer =>
      obtain ⟨_, hset, rfl⟩ := map_ok_iff.mp h
      exact Adds.of_kept (setAuthorizedRelayer_kept hset) (SourcesKept.refl _) rfl
  | setAuthorizedBinder =>
      obtain ⟨_, hset, rfl⟩ := map_ok_iff.mp h
      exact Adds.of_kept (setAuthorizedBinder_kept hset) (SourcesKept.refl _) rfl
  | resolveSession =>
      obtain ⟨_, hsession, rfl⟩ := map_ok_iff.mp h
      obtain ⟨⟨session, g⟩, hresolve, rfl⟩ := map_ok_iff.mp hsession
      exact Adds.of_kept (resolveSession_kept hresolve) (SourcesKept.refl _) rfl
  | setAuthorizedSubmitter =>
      obtain ⟨_, hset, rfl⟩ := map_ok_iff.mp h
      exact Adds.of_kept (GovernanceKept.refl _) (setAuthorizedSubmitter_kept hset) rfl
  | setAuthorizedRevealer =>
      obtain ⟨_, hset, rfl⟩ := map_ok_iff.mp h
      exact Adds.of_kept (GovernanceKept.refl _) (setAuthorizedRevealer_kept hset) rfl
  | commitSource commitment =>
      obtain ⟨_, hcommit, rfl⟩ := map_ok_iff.mp h
      refine ⟨(GovernanceKept.refl _).weaken, fun key => ?_, fun _ => .inl rfl⟩
      refine (commitSource_stamps hcommit key).imp_right fun hcommitted => ?_
      obtain ⟨rfl, hstamp⟩ := hcommitted
      exact ⟨tx, rfl, hstamp⟩
  | revealSource =>
      obtain ⟨_, hsource, rfl⟩ := map_ok_iff.mp h
      obtain ⟨⟨revealed, r⟩, hreveal, rfl⟩ := map_ok_iff.mp hsource
      exact Adds.of_kept (GovernanceKept.refl _) (revealSource_kept hreveal) rfl
  | bindRecourse request =>
      obtain ⟨⟨commitment, t⟩, hbind, rfl⟩ := map_ok_iff.mp h
      exact bindRecourse_adds hbind

theorem exec_adds (h : exec crypto env d s event = .ok s') : Adds crypto d event s s' := by
  cases event with
  | call tx call =>
      obtain ⟨-, -, hperform⟩ := bind_ok_iff.mp h
      exact perform_adds hperform
  | outside world =>
      obtain rfl := pure_ok_iff.mp h
      exact Adds.of_kept (GovernanceKept.refl _) (SourcesKept.refl _) rfl

/-- What was recorded stays recorded, and what one event adds is recorded too. -/
theorem Recorded.snoc {events : List (Event W)} (hrecorded : Recorded crypto d events s)
    (hadds : Adds crypto d event s s') : Recorded crypto d (events ++ [event]) s' where
  record digest hisRecorded := by
    rcases hadds.governance.records digest with hkept | ⟨tx, request, rfl, hdigest, hstamp⟩
    · have hbefore : (s.governance.records digest).isRecorded = true :=
        (congrArg Prod.fst hkept).symm.trans hisRecorded
      obtain ⟨tx, request, hmem, hdigest, hstamp⟩ := hrecorded.record digest hbefore
      exact ⟨tx, request, List.mem_append_left _ hmem, hdigest, hkept.trans hstamp⟩
    · exact ⟨tx, request, List.mem_append_right _ List.mem_cons_self, hdigest, hstamp⟩
  session key hisCommitted := by
    rcases hadds.governance.commitments key with hkept | ⟨tx, nullifier, rfl, hstamp⟩
    · have hbefore : (s.governance.commitments key).isCommitted = true :=
        (congrArg Prod.fst hkept).symm.trans hisCommitted
      obtain ⟨tx, nullifier, hmem, hstamp⟩ := hrecorded.session key hbefore
      exact ⟨tx, nullifier, List.mem_append_left _ hmem, hkept.trans hstamp⟩
    · exact ⟨tx, nullifier, List.mem_append_right _ List.mem_cons_self, hstamp⟩
  source key hisCommitted := by
    rcases hadds.sources key with hkept | ⟨tx, rfl, hstamp⟩
    · have hbefore : (s.sources.commitments key).isCommitted = true :=
        (congrArg Prod.fst hkept).symm.trans hisCommitted
      obtain ⟨tx, hmem, hstamp⟩ := hrecorded.source key hbefore
      exact ⟨tx, List.mem_append_left _ hmem, hkept.trans hstamp⟩
    · exact ⟨tx, List.mem_append_right _ List.mem_cons_self, hstamp⟩
  recourse key hisOpen := by
    rcases hadds.binder key with hkept | ⟨tx, request, rfl, hsession⟩
    · rw [hkept] at hisOpen
      obtain ⟨before, tx, request, after, rfl, hsession⟩ := hrecorded.recourse key hisOpen
      exact ⟨before, tx, request, after ++ [event], by simp, by rwa [hkept]⟩
    · exact ⟨events, tx, request, [], rfl, hsession⟩

/-- Nothing is recorded at first. -/
theorem deploy_recorded {genesis : Genesis} {world : W}
    (h : deploy crypto d genesis world = .ok s) : Recorded crypto d [] s := by
  simp only [deploy, Governance.construct, Sources.construct, bind_ok_iff, pure_ok_iff] at h
  obtain ⟨-, -, governance, ⟨-, -, rfl⟩, sources, ⟨-, -, rfl⟩, -, -, -, -, rfl⟩ := h
  exact
    { record := by rintro digest ⟨⟩
      session := by rintro key ⟨⟩
      source := by rintro key ⟨⟩
      recourse := by rintro key ⟨⟩ }

/-- **Run.** In a reachable system every entry is traced to one call of the run. -/
theorem Reaches.recorded {events : List (Event W)} (h : Reaches crypto env d events s) :
    Recorded crypto d events s := by
  obtain ⟨genesis, world, s₀, hdeploy, hrun⟩ := h
  exact run_history (P := Recorded crypto d) (deploy_recorded hdeploy)
    (fun _ _ _ _ _ hrecorded hexec => hrecorded.snoc (exec_adds hexec)) hrun

end

end Mordant.Match
