/-
# One authorization, once

Four contracts keep marks against replay: the verifier of six identities of a result, the
governance registry of nullifiers and of sessions it opened, the source registry of opened
commitments and of the issuers' nonces, the binder of sources and of consents.  Whatever
calls a run is made of, nothing is marked twice.  A session is the same for its parties
whatever its salt, because the nullifier leaves the salt out and has one commitment.
-/

import Mordant.Foundation.Consumption
import Mordant.Match.Opening
import Mordant.Match.Registers

namespace Mordant.Match

open Evm Foundation
open Function (update_of_ne update_self update)

/-- One entry of a nested table of flags. -/
theorem Consumes.setNested {α β : Type} [DecidableEq α] [DecidableEq β] {table : α → β → Bool}
    {key : α} {inner : β} (h : ¬ table key inner = true) :
    Consumes (fun k : α × β => table k.1 k.2 = true)
      (fun k => setNested table key inner true k.1 k.2 = true) [(key, inner)] := by
  apply Consumes.insert
  case hfresh => exact h
  case h =>
    rintro ⟨outer, within⟩
    by_cases houter : outer = key
    · subst houter
      by_cases hwithin : within = inner
      · simp [Match.setNested, hwithin]
      · simp [Match.setNested, hwithin]
    · simp [Match.setNested, houter]

/-! ## The verifier -/

namespace Verifier

variable {crypto : Crypto} {self : Address} {v v' : VerifierState} {g : GovernanceState} {tx : Tx}

/-- The six identities of accepted results. -/
structure Accepts (crypto : Crypto) (v v' : VerifierState) (cores : List ResultCore) : Prop where
  replay : Consumes (v.consumedReplayKeys · = true) (v'.consumedReplayKeys · = true)
    (cores.map (replayKey crypto))
  decision : Consumes (v.consumedDecisionKeys · = true) (v'.consumedDecisionKeys · = true)
    (cores.map (decisionKey crypto))
  session : Consumes (v.consumedSessions · = true) (v'.consumedSessions · = true)
    (cores.map (·.session.sessionCommitment))
  nullifier : Consumes (v.consumedNullifiers · = true) (v'.consumedNullifiers · = true)
    (cores.map (·.session.sessionNullifier))
  output : Consumes (v.consumedOutputs · = true) (v'.consumedOutputs · = true)
    (cores.map (·.evaluation.outputCiphertextCommitment))
  proof : Consumes (v.consumedProviderProofs · = true) (v'.consumedProviderProofs · = true)
    (cores.map (·.evaluation.providerProofCommitment))

theorem Accepts.refl (v : VerifierState) : Accepts crypto v v [] :=
  ⟨.refl _, .refl _, .refl _, .refl _, .refl _, .refl _⟩

theorem acceptMatch_accepts {envelope : MatchEnvelope} {attestation : Bytes}
    {commitment : Bytes32}
    (h : acceptMatch crypto self v g tx envelope attestation = .ok (commitment, v')) :
    Accepts crypto v v' [envelope.core] := by
  simp only [acceptMatch, consume, bind_ok_iff, revertIf_ok_iff, pure_ok_iff, Prod.mk.injEq] at h
  obtain ⟨-, -, -, -, _, ⟨-, hreplay, -, hdecision, -, hsession, -, hnullifier, -, houtput, -,
    hproof, rfl⟩, -, -, -, rfl⟩ := h
  exact ⟨.update hreplay, .update hdecision, .update hsession, .update hnullifier,
    .update houtput, .update hproof⟩

theorem setPolicyVersion_accepts {policyId : Bytes32} {version : BitVec 32}
    (h : setPolicyVersion v tx policyId version = .ok v') : Accepts crypto v v' [] := by
  simp only [setPolicyVersion, bind_ok_iff, pure_ok_iff] at h
  obtain ⟨-, -, -, -, rfl⟩ := h
  exact ⟨.refl _, .refl _, .refl _, .refl _, .refl _, .refl _⟩

end Verifier

/-! ## The governance registry -/

/-- A session with this nullifier was opened. -/
def GovernanceState.Opened (g : GovernanceState) (nullifier : Bytes32) : Prop :=
  ∃ key, (g.commitments key).isCommitted = true ∧ (g.commitments key).consumed = true ∧
    (g.commitments key).sessionNullifier = nullifier

/-- No two sessions have one nullifier, and every nullifier of a session is taken. -/
structure SessionsDistinct (g : GovernanceState) : Prop where
  taken : ∀ key, (g.commitments key).isCommitted = true →
    g.consumedNullifier (g.commitments key).sessionNullifier = true
  distinct : ∀ key key', (g.commitments key).isCommitted = true →
    (g.commitments key').isCommitted = true →
    (g.commitments key).sessionNullifier = (g.commitments key').sessionNullifier → key = key'

namespace Governance

variable {crypto : Crypto} {self : Address} {g g' : GovernanceState} {tx : Tx} {digest : Bytes32}

/-- Sessions that were published, each with its nullifier, and the nullifiers of sessions that
were opened. -/
structure Admits (g g' : GovernanceState) (published : List (Bytes32 × Bytes32))
    (opened : List Bytes32) : Prop where
  distinct : SessionsDistinct g'
  commitments : Consumes (fun key => (g.commitments key).isCommitted = true)
    (fun key => (g'.commitments key).isCommitted = true) (published.map Prod.fst)
  nullifiers : Consumes (g.consumedNullifier · = true) (g'.consumedNullifier · = true)
    (published.map Prod.snd)
  opened : Consumes g.Opened g'.Opened opened

/-- A call that leaves sessions and nullifiers alone. -/
theorem Admits.of_same (h : SessionsDistinct g) (hcommitments : g'.commitments = g.commitments)
    (hnullifiers : g'.consumedNullifier = g.consumedNullifier) : Admits g g' [] [] := by
  have hopened : g'.Opened = g.Opened := by
    unfold GovernanceState.Opened
    rw [hcommitments]
  refine ⟨⟨?_, ?_⟩, ?_, ?_, hopened ▸ .refl _⟩
  · rw [hcommitments, hnullifiers]
    exact h.taken
  · rw [hcommitments]
    exact h.distinct
  · rw [hcommitments]
    exact .refl _
  · rw [hnullifiers]
    exact .refl _

theorem authorize_admits {request : AuthorizationRequest} (hdistinct : SessionsDistinct g)
    (h : authorize crypto self g tx request = .ok (digest, g')) : Admits g g' [] [] := by
  simp only [authorize, bind_ok_iff, pure_ok_iff, Prod.mk.injEq] at h
  obtain ⟨-, -, -, -, -, -, -, -, -, -, -, -, -, rfl⟩ := h
  exact .of_same hdistinct rfl rfl

theorem retire_admits (hdistinct : SessionsDistinct g)
    (h : retire g tx digest = .ok g') : Admits g g' [] [] := by
  simp only [retire, bind_ok_iff, pure_ok_iff] at h
  obtain ⟨-, -, -, -, -, -, rfl⟩ := h
  exact .of_same hdistinct rfl rfl

theorem emergencyRevoke_admits (hdistinct : SessionsDistinct g)
    (h : emergencyRevoke g tx digest = .ok g') : Admits g g' [] [] := by
  simp only [emergencyRevoke, bind_ok_iff, pure_ok_iff] at h
  obtain ⟨-, -, -, -, -, -, rfl⟩ := h
  exact .of_same hdistinct rfl rfl

theorem setAuthorizedRelayer_admits {relayer : Address} {allowed : Bool}
    (hdistinct : SessionsDistinct g)
    (h : setAuthorizedRelayer g tx relayer allowed = .ok g') : Admits g g' [] [] := by
  simp only [setAuthorizedRelayer, bind_ok_iff, pure_ok_iff] at h
  obtain ⟨-, -, -, -, rfl⟩ := h
  exact .of_same hdistinct rfl rfl

theorem setAuthorizedBinder_admits {binder : Address} {allowed : Bool}
    (hdistinct : SessionsDistinct g)
    (h : setAuthorizedBinder g tx binder allowed = .ok g') : Admits g g' [] [] := by
  simp only [setAuthorizedBinder, bind_ok_iff, pure_ok_iff] at h
  obtain ⟨-, -, -, -, rfl⟩ := h
  exact .of_same hdistinct rfl rfl

/-- A session is published under a nullifier that was free. -/
theorem commitSession_admits {commitment nullifier : Bytes32} (hdistinct : SessionsDistinct g)
    (h : commitSession g tx commitment nullifier = .ok g') :
    Admits g g' [(commitment, nullifier)] [] := by
  simp only [commitSession, bind_ok_iff, revertIf_ok_iff, pure_ok_iff, Bool.not_eq_true] at h
  obtain ⟨-, -, -, -, -, hfree, -, hunused, rfl⟩ := h
  have hother : ∀ key, (g.commitments key).isCommitted = true →
      (g.commitments key).sessionNullifier ≠ nullifier := by
    rintro key hcommitted rfl
    exact absurd (hdistinct.taken key hcommitted) (Bool.eq_false_iff.mp hunused)
  constructor
  case distinct =>
    constructor
    case taken =>
      intro key hcommitted
      by_cases hsame : key = commitment
      · simp [hsame]
      · simp only [update_of_ne hsame] at hcommitted ⊢
        rw [update_of_ne (hother key hcommitted)]
        exact hdistinct.taken key hcommitted
    case distinct =>
      intro key key' hcommitted hcommitted' hnullifier
      by_cases hsame : key = commitment <;> by_cases hsame' : key' = commitment
      · exact hsame.trans hsame'.symm
      · simp only [hsame, update_self, update_of_ne hsame'] at hcommitted' hnullifier
        exact absurd hnullifier.symm (hother key' hcommitted')
      · simp only [hsame', update_self, update_of_ne hsame] at hcommitted hnullifier
        exact absurd hnullifier (hother key hcommitted)
      · simp only [update_of_ne hsame, update_of_ne hsame']
          at hcommitted hcommitted' hnullifier
        exact hdistinct.distinct key key' hcommitted hcommitted' hnullifier
  case commitments =>
    apply Consumes.insert
    case hfresh => exact Bool.eq_false_iff.mp hfree
    case h =>
      intro key
      by_cases hsame : key = commitment
      · simp [hsame]
      · simp [hsame]
  case nullifiers => exact .update (Bool.eq_false_iff.mp hunused)
  case opened =>
    apply Consumes.none
    rintro nullifier ⟨key, hcommitted, hconsumed, hnullifier⟩
    have hne : key ≠ commitment := by
      rintro rfl
      exact absurd hcommitted (Bool.eq_false_iff.mp hfree)
    refine ⟨key, ?_⟩
    simp only [update_of_ne hne]
    exact ⟨hcommitted, hconsumed, hnullifier⟩

/-- A session is opened that was not. -/
theorem resolveSession_admits {intent : SessionIntent} {salt : Bytes32}
    {signatures : InitiationSignatures} {session : ResolvedSession}
    (hdistinct : SessionsDistinct g)
    (h : resolveSession crypto self g tx intent salt signatures = .ok (session, g')) :
    Admits g g' [] [sessionNullifierOf crypto self tx intent] := by
  simp only [resolveSession, bind_ok_iff, revertIf_ok_iff, pure_ok_iff, Prod.mk.injEq,
    Bool.not_eq_false, not_not] at h
  obtain ⟨-, -, -, -, -, -, -, -, -, hcommitted, -, hunused, -, hnullifier, -, -, -, -, -, -, -,
    rfl⟩ := h
  generalize sessionCommitmentOf crypto self tx intent signatures salt = opened at *
  -- Only the flag of the entry is new.
  have hentry : ∀ key, (update g.commitments opened
      { g.commitments opened with consumed := true } key).isCommitted =
        (g.commitments key).isCommitted ∧
      (update g.commitments opened
        { g.commitments opened with consumed := true } key).sessionNullifier =
        (g.commitments key).sessionNullifier := by
    intro key
    by_cases hsame : key = opened
    · simp [hsame]
    · simp [hsame]
  constructor
  case distinct =>
    constructor
    case taken =>
      intro key
      simp only [hentry]
      exact hdistinct.taken key
    case distinct =>
      intro key key'
      simp only [hentry]
      exact hdistinct.distinct key key'
  case commitments =>
    apply Consumes.none
    intro key hkey
    simpa only [hentry] using hkey
  case nullifiers => exact .refl _
  case opened =>
    apply Consumes.insert
    case hfresh =>
      rintro ⟨key, hkey, hconsumed, hsame⟩
      obtain rfl := hdistinct.distinct key opened hkey hcommitted (hsame.trans hnullifier.symm)
      exact hunused hconsumed
    case h =>
      intro nullifier
      unfold GovernanceState.Opened
      simp only [hentry]
      constructor
      · rintro ⟨key, hkey, hconsumed, rfl⟩
        by_cases hsame : key = opened
        · exact .inl (hsame ▸ hnullifier)
        · rw [update_of_ne hsame] at hconsumed
          exact .inr ⟨key, hkey, hconsumed, rfl⟩
      · rintro (rfl | ⟨key, hkey, hconsumed, hsame⟩)
        · exact ⟨opened, hcommitted, by rw [update_self], hnullifier⟩
        · refine ⟨key, hkey, ?_, hsame⟩
          by_cases hopened : key = opened
          · rw [hopened, update_self]
          · rw [update_of_ne hopened]
            exact hconsumed

end Governance

/-! ## The source registry -/

namespace Sources

variable {crypto : Crypto} {self : Address} {r r' : SourceState} {issuers : IssuerState} {tx : Tx}

/-- Commitments that were opened, and the attestations of issuers they were opened with. -/
structure Reveals (r r' : SourceState) (commitments : List Bytes32)
    (attestations : List (Bytes32 × BitVec 256)) : Prop where
  commitments : Consumes
    (fun key => (r.commitments key).isCommitted = true ∧ (r.commitments key).revealed = true)
    (fun key => (r'.commitments key).isCommitted = true ∧ (r'.commitments key).revealed = true)
    commitments
  nonces : Consumes (fun nonce => r.consumedNonce nonce.1 nonce.2 = true)
    (fun nonce => r'.consumedNonce nonce.1 nonce.2 = true) attestations

theorem Reveals.trans {r₁ r₂ r₃ : SourceState} {commitments commitments' : List Bytes32}
    {attestations attestations' : List (Bytes32 × BitVec 256)}
    (h : Reveals r₁ r₂ commitments attestations) (h' : Reveals r₂ r₃ commitments' attestations') :
    Reveals r₁ r₃ (commitments ++ commitments') (attestations ++ attestations') :=
  ⟨h.commitments.trans h'.commitments, h.nonces.trans h'.nonces⟩

theorem setAuthorizedSubmitter_reveals {submitter : Address} {allowed : Bool}
    (h : setAuthorizedSubmitter r tx submitter allowed = .ok r') : Reveals r r' [] [] := by
  simp only [setAuthorizedSubmitter, bind_ok_iff, pure_ok_iff] at h
  obtain ⟨-, -, -, -, rfl⟩ := h
  exact ⟨.refl _, .refl _⟩

theorem setAuthorizedRevealer_reveals {revealer : Address} {allowed : Bool}
    (h : setAuthorizedRevealer r tx revealer allowed = .ok r') : Reveals r r' [] [] := by
  simp only [setAuthorizedRevealer, bind_ok_iff, pure_ok_iff] at h
  obtain ⟨-, -, -, -, rfl⟩ := h
  exact ⟨.refl _, .refl _⟩

/-- A new commitment opens nothing, and takes the place of none. -/
theorem commitSource_reveals {commitment : Bytes32}
    (h : commitSource r tx commitment = .ok r') : Reveals r r' [] [] := by
  simp only [commitSource, bind_ok_iff, revertIf_ok_iff, pure_ok_iff] at h
  obtain ⟨-, -, -, -, -, hfree, rfl⟩ := h
  refine ⟨.none ?_, .refl _⟩
  rintro key ⟨hcommitted, hrevealed⟩
  have hne : key ≠ commitment := by
    rintro rfl
    exact hfree hcommitted
  simp only [update_of_ne hne]
  exact ⟨hcommitted, hrevealed⟩

/-- A commitment is opened that was not, with an attestation that was not used. -/
theorem revealSource_reveals {attestation : SourceAttestation} {issuerSignature : Bytes}
    {salt : Bytes32} {revealed : RevealedSource}
    (h : revealSource crypto self r issuers tx attestation issuerSignature salt =
      .ok (revealed, r')) :
    Reveals r r' [sourceCommitmentOf crypto self tx attestation issuerSignature salt]
      [(attestation.issuerKeyId, attestation.nonce)] := by
  simp only [revealSource, bind_ok_iff, revertIf_ok_iff, pure_ok_iff, Prod.mk.injEq,
    Bool.not_eq_false] at h
  obtain ⟨-, -, -, hcommitted, -, hhidden, -, -, -, -, -, -, -, hunused, -, -, -, -, -, -, -,
    rfl⟩ := h
  generalize sourceCommitmentOf crypto self tx attestation issuerSignature salt = opened at *
  refine ⟨?_, Consumes.setNested hunused⟩
  apply Consumes.insert
  case hfresh => exact fun hopened => hhidden hopened.2
  case h =>
    intro key
    by_cases hsame : key = opened
    · simp [hsame, hcommitted]
    · simp [hsame]

end Sources

/-! ## The binder -/

namespace Binder

variable {crypto : Crypto} {W : Type} {env : Externals W} {d : Deployment} {b b' : BinderState}
  {s s' : System W} {tx : Tx} {r : BindRequest} {core : ResultCore}

/-- The sources of a request, as its result names them. -/
def BindRequest.sources (r : BindRequest) : List Bytes32 :=
  [r.envelope.core.session.sourceRecordCommitmentA,
    r.envelope.core.session.sourceRecordCommitmentB]

/-- The attestations of a request, by issuer and nonce. -/
def BindRequest.attestations (r : BindRequest) : List (Bytes32 × BitVec 256) :=
  [(r.anchoredSource.attestation.issuerKeyId, r.anchoredSource.attestation.nonce),
    (r.counterpartySource.attestation.issuerKeyId, r.counterpartySource.attestation.nonce)]

/-- The consents of a request, by scope and nonce. -/
def BindRequest.consents (r : BindRequest) : List (Bytes32 × BitVec 256) :=
  [(r.consentA.scopeCommitment, r.consentA.nonce), (r.consentB.scopeCommitment, r.consentB.nonce)]

/-- Sources that were bound, and consents that were spent. -/
structure Binds (b b' : BinderState) (sources : List Bytes32)
    (consents : List (Bytes32 × BitVec 256)) : Prop where
  sources : Consumes (b.boundSources · = true) (b'.boundSources · = true) sources
  consents : Consumes (fun consent => b.consumedConsentNonce consent.1 consent.2 = true)
    (fun consent => b'.consumedConsentNonce consent.1 consent.2 = true) consents

theorem requireConsent_consumes {commitment scope record source : Bytes32}
    {anchor controller : Address} {consent : DisclosureConsent}
    (h : requireConsent crypto d b tx core commitment anchor scope record source controller consent
      = .ok b') :
    Consumes (fun nonce => b.consumedConsentNonce nonce.1 nonce.2 = true)
      (fun nonce => b'.consumedConsentNonce nonce.1 nonce.2 = true)
      [(consent.scopeCommitment, consent.nonce)] ∧ b'.boundSources = b.boundSources := by
  simp only [requireConsent, bind_ok_iff, revertIf_ok_iff, pure_ok_iff] at h
  obtain ⟨-, -, -, -, -, -, -, -, -, hunused, -, -, -, -, rfl⟩ := h
  exact ⟨Consumes.setNested hunused, rfl⟩

theorem requireBilateralConsent_consumes {commitment : Bytes32} {anchor : Address}
    {session : ResolvedSession} {consentA consentB : DisclosureConsent}
    (h : requireBilateralConsent crypto d b tx core commitment anchor session consentA consentB =
      .ok b') :
    Consumes (fun nonce => b.consumedConsentNonce nonce.1 nonce.2 = true)
      (fun nonce => b'.consumedConsentNonce nonce.1 nonce.2 = true)
      [(consentA.scopeCommitment, consentA.nonce), (consentB.scopeCommitment, consentB.nonce)] ∧
      b'.boundSources = b.boundSources := by
  obtain ⟨_, hconsentA, hconsentB⟩ := bind_ok_iff.mp h
  obtain ⟨hspentA, hsourcesA⟩ := requireConsent_consumes hconsentA
  obtain ⟨hspentB, hsourcesB⟩ := requireConsent_consumes hconsentB
  exact ⟨hspentA.trans hspentB, hsourcesB.trans hsourcesA⟩

/-- The sources that are compared are new to the binder. -/
theorem compare_unbound {context : OpenContext} {u : Unit} (h : compare b core context = .ok u) :
    context.anchored.sourceRecordCommitment ≠ context.counterparty.sourceRecordCommitment ∧
      ¬ b.boundSources context.anchored.sourceRecordCommitment = true ∧
      ¬ b.boundSources context.counterparty.sourceRecordCommitment = true := by
  simp only [compare, bind_ok_iff, revertIf_ok_iff] at h
  obtain ⟨-, -, -, -, -, hdifferent, -, hanchored, -, hcounterparty, -⟩ := h
  exact ⟨hdifferent, hanchored, hcounterparty⟩

end Binder

/-! ## What the events of a run use -/

section

variable {W : Type}

/-- The results an event has accepted. -/
def Event.accepted : Event W → List ResultCore
  | .call _ (.acceptMatch envelope _) => [envelope.core]
  | .call _ (.bindRecourse request) => [request.envelope.core]
  | _ => []

/-- The session commitments an event publishes, each with its nullifier. -/
def Event.published : Event W → List (Bytes32 × Bytes32)
  | .call _ (.commitSession commitment nullifier) => [(commitment, nullifier)]
  | _ => []

/-- The sessions an event reveals, with the call that does. -/
def Event.revealed : Event W → List (Tx × SessionReveal)
  | .call tx (.resolveSession reveal) => [(tx, reveal)]
  | .call tx (.bindRecourse request) => [(tx, request.reveal)]
  | _ => []

/-- The sources an event reveals, with the call that does. -/
def Event.sourced : Event W → List (Tx × SourceReveal)
  | .call tx (.revealSource reveal) => [(tx, reveal)]
  | .call tx (.bindRecourse request) =>
      [(tx, request.anchoredSource), (tx, request.counterpartySource)]
  | _ => []

/-- The recourses an event opens. -/
def Event.opened : Event W → List Binder.BindRequest
  | .call _ (.bindRecourse request) => [request]
  | _ => []

/-- The commitment a source is revealed for. -/
def revealedCommitment (crypto : Crypto) (d : Deployment) (reveal : Tx × SourceReveal) : Bytes32 :=
  Sources.sourceCommitmentOf crypto d.sources reveal.1 reveal.2.attestation
    reveal.2.issuerSignature reveal.2.salt

/-- The issuer and the nonce of its attestation. -/
def revealedAttestation (reveal : Tx × SourceReveal) : Bytes32 × BitVec 256 :=
  (reveal.2.attestation.issuerKeyId, reveal.2.attestation.nonce)

/-- The nullifier of a session that is revealed. -/
def revealedNullifier (crypto : Crypto) (d : Deployment) (reveal : Tx × SessionReveal) : Bytes32 :=
  Governance.sessionNullifierOf crypto d.governance reveal.1 reveal.2.intent

/-- What one event uses, in all four contracts. -/
structure Uses (crypto : Crypto) (d : Deployment) (event : Event W) (s s' : System W) : Prop where
  accepted : Verifier.Accepts crypto s.verifier s'.verifier event.accepted
  admitted : Governance.Admits s.governance s'.governance event.published
    (event.revealed.map (revealedNullifier crypto d))
  revealed : Sources.Reveals s.sources s'.sources
    (event.sourced.map (revealedCommitment crypto d)) (event.sourced.map revealedAttestation)
  bound : Binder.Binds s.binder s'.binder (event.opened.flatMap Binder.BindRequest.sources)
    (event.opened.flatMap Binder.BindRequest.consents)

variable {crypto : Crypto} {env : Externals W} {d : Deployment} {s s' : System W} {tx : Tx}
  {event : Event W}

/-- What opening the session and both sources of a bind uses. -/
theorem Binder.resolve_uses {r : Binder.BindRequest} {context : Binder.OpenContext}
    (h : Binder.resolve crypto d s tx r = .ok (context, s'))
    (hdistinct : SessionsDistinct s.governance) :
    Governance.Admits s.governance s'.governance []
        [revealedNullifier crypto d (tx, r.reveal)] ∧
      Sources.Reveals s.sources s'.sources
        [revealedCommitment crypto d (tx, r.anchoredSource),
          revealedCommitment crypto d (tx, r.counterpartySource)] r.attestations ∧
      s'.verifier = s.verifier ∧ s'.binder = s.binder := by
  simp only [Binder.resolve, bind_ok_iff, pure_ok_iff, Prod.mk.injEq] at h
  obtain ⟨⟨session, governance⟩, hsession, -, -, ⟨anchored, sources⟩, hanchored,
    ⟨counterparty, sources'⟩, hcounterparty, -, rfl⟩ := h
  have hadmits := Governance.resolveSession_admits hdistinct hsession
  have hreveals := (Sources.revealSource_reveals hanchored).trans
    (Sources.revealSource_reveals hcounterparty)
  exact ⟨hadmits, hreveals, rfl, rfl⟩

/-- A bind uses one of everything but sources and consents, and two of these. -/
theorem bindRecourse_uses {r : Binder.BindRequest} {commitment : Bytes32}
    (hdistinct : SessionsDistinct s.governance)
    (h : Binder.bindRecourse crypto env d s tx r = .ok (commitment, s')) :
    Uses crypto d (.call tx (.bindRecourse r)) s s' := by
  simp only [Binder.bindRecourse, bind_ok_iff, pure_ok_iff, Prod.mk.injEq] at h
  obtain ⟨-, -, -, -, -, -, -, -, -, -, ⟨_, verifier⟩, haccept, -, -, -, -, -, -, s₂, hopen, -,
    rfl⟩ := h
  simp only [Binder.openRecourse, bind_ok_iff, pure_ok_iff] at hopen
  obtain ⟨⟨context, s₃⟩, hresolve, _, hcompare, -, -, b, hconsent, -, -, rfl⟩ := hopen
  obtain ⟨hadmits, hreveals, hverifier, hbinder⟩ := Binder.resolve_uses hresolve hdistinct
  obtain ⟨hspent, hsources⟩ := Binder.requireBilateralConsent_consumes hconsent
  obtain ⟨hnamedA, hnamedB⟩ := Binder.compare_ok hcompare
  obtain ⟨hdifferent, hanchored, hcounterparty⟩ := Binder.compare_unbound hcompare
  simp only [hbinder] at hspent hsources hanchored hcounterparty
  have hbound : Consumes (s.binder.boundSources · = true)
      (update (update s.binder.boundSources
        context.anchored.sourceRecordCommitment true)
        context.counterparty.sourceRecordCommitment true · = true) r.sources := by
    rw [Binder.BindRequest.sources, ← hnamedA, ← hnamedB]
    apply (Consumes.update hanchored).trans
    apply Consumes.update
    rw [update_of_ne (Ne.symm hdifferent)]
    exact hcounterparty
  constructor
  case accepted =>
    rw [hverifier]
    exact Verifier.acceptMatch_accepts haccept
  case admitted => exact hadmits
  case revealed => exact hreveals
  case bound =>
    rw [hsources]
    exact ⟨hbound, hspent⟩

/-- **Step.** Each call uses what it is named after, and nothing else. -/
theorem perform_uses {call : Call} (hdistinct : SessionsDistinct s.governance)
    (h : call.perform crypto env d s tx = .ok s') : Uses crypto d (.call tx call) s s' := by
  have hidle := Governance.Admits.of_same hdistinct rfl rfl
  have hquiet : Sources.Reveals s.sources s.sources [] [] := ⟨.refl _, .refl _⟩
  have hunbound : Binder.Binds s.binder s.binder [] [] := ⟨.refl _, .refl _⟩
  cases call with
  | registerIssuer | revokeIssuer | advanceEpoch | transferOwnership | renounceOwnership =>
      obtain ⟨_, -, rfl⟩ := map_ok_iff.mp h
      exact ⟨.refl _, hidle, hquiet, hunbound⟩
  | setPolicyVersion =>
      obtain ⟨_, hset, rfl⟩ := map_ok_iff.mp h
      exact ⟨Verifier.setPolicyVersion_accepts hset, hidle, hquiet, hunbound⟩
  | acceptMatch =>
      obtain ⟨_, hresult, rfl⟩ := map_ok_iff.mp h
      obtain ⟨⟨_, v⟩, haccept, rfl⟩ := map_ok_iff.mp hresult
      exact ⟨Verifier.acceptMatch_accepts haccept, hidle, hquiet, hunbound⟩
  | authorize =>
      obtain ⟨_, hrecord, rfl⟩ := map_ok_iff.mp h
      obtain ⟨⟨_, g⟩, hauthorize, rfl⟩ := map_ok_iff.mp hrecord
      exact ⟨.refl _, Governance.authorize_admits hdistinct hauthorize, hquiet, hunbound⟩
  | retire =>
      obtain ⟨_, hretire, rfl⟩ := map_ok_iff.mp h
      exact ⟨.refl _, Governance.retire_admits hdistinct hretire, hquiet, hunbound⟩
  | emergencyRevoke =>
      obtain ⟨_, hrevoke, rfl⟩ := map_ok_iff.mp h
      exact ⟨.refl _, Governance.emergencyRevoke_admits hdistinct hrevoke, hquiet, hunbound⟩
  | setAuthorizedRelayer =>
      obtain ⟨_, hset, rfl⟩ := map_ok_iff.mp h
      exact ⟨.refl _, Governance.setAuthorizedRelayer_admits hdistinct hset, hquiet, hunbound⟩
  | setAuthorizedBinder =>
      obtain ⟨_, hset, rfl⟩ := map_ok_iff.mp h
      exact ⟨.refl _, Governance.setAuthorizedBinder_admits hdistinct hset, hquiet, hunbound⟩
  | commitSession =>
      obtain ⟨_, hcommit, rfl⟩ := map_ok_iff.mp h
      exact ⟨.refl _, Governance.commitSession_admits hdistinct hcommit, hquiet, hunbound⟩
  | resolveSession =>
      obtain ⟨_, hsession, rfl⟩ := map_ok_iff.mp h
      obtain ⟨⟨_, g⟩, hresolve, rfl⟩ := map_ok_iff.mp hsession
      exact ⟨.refl _, Governance.resolveSession_admits hdistinct hresolve, hquiet, hunbound⟩
  | setAuthorizedSubmitter =>
      obtain ⟨_, hset, rfl⟩ := map_ok_iff.mp h
      exact ⟨.refl _, hidle, Sources.setAuthorizedSubmitter_reveals hset, hunbound⟩
  | setAuthorizedRevealer =>
      obtain ⟨_, hset, rfl⟩ := map_ok_iff.mp h
      exact ⟨.refl _, hidle, Sources.setAuthorizedRevealer_reveals hset, hunbound⟩
  | commitSource =>
      obtain ⟨_, hcommit, rfl⟩ := map_ok_iff.mp h
      exact ⟨.refl _, hidle, Sources.commitSource_reveals hcommit, hunbound⟩
  | revealSource =>
      obtain ⟨_, hsource, rfl⟩ := map_ok_iff.mp h
      obtain ⟨⟨_, r⟩, hreveal, rfl⟩ := map_ok_iff.mp hsource
      exact ⟨.refl _, hidle, Sources.revealSource_reveals hreveal, hunbound⟩
  | bindRecourse =>
      obtain ⟨⟨_, t⟩, hbind, rfl⟩ := map_ok_iff.mp h
      exact bindRecourse_uses hdistinct hbind

theorem exec_uses (hdistinct : SessionsDistinct s.governance)
    (h : exec crypto env d s event = .ok s') : Uses crypto d event s s' := by
  cases event with
  | call tx call =>
      obtain ⟨-, -, hperform⟩ := bind_ok_iff.mp h
      exact perform_uses hdistinct hperform
  | outside world =>
      obtain rfl := pure_ok_iff.mp h
      exact ⟨.refl _, .of_same hdistinct rfl rfl, ⟨.refl _, .refl _⟩, ⟨.refl _, .refl _⟩⟩

/-! ## A whole run -/

/-- What a session is for its parties: whose it is, and its nonce. -/
def SessionIntent.identity (intent : SessionIntent) : Bytes32 × Bytes32 × Bytes32 × BitVec 256 :=
  (intent.issuerKeyId, intent.governanceRecordA, intent.governanceRecordB, intent.sessionNonce)

/-- Every call is made on one chain. -/
def OnChain (chainId : ℕ) (events : List (Event W)) : Prop :=
  ∀ tx call, .call tx call ∈ events → tx.chainId = chainId

/-- Nothing that authorizes is used twice in a run. -/
structure OneShotAuthority (crypto : Crypto) (d : Deployment) (events : List (Event W))
    (s : System W) : Prop where
  /-- No two accepted results share one of their six identities. -/
  replay : ((events.flatMap Event.accepted).map (Verifier.replayKey crypto)).Nodup
  decision : ((events.flatMap Event.accepted).map (Verifier.decisionKey crypto)).Nodup
  session : ((events.flatMap Event.accepted).map (·.session.sessionCommitment)).Nodup
  nullifier : ((events.flatMap Event.accepted).map (·.session.sessionNullifier)).Nodup
  output : ((events.flatMap Event.accepted).map
    (·.evaluation.outputCiphertextCommitment)).Nodup
  proof : ((events.flatMap Event.accepted).map (·.evaluation.providerProofCommitment)).Nodup
  /-- A nullifier is published once, with one commitment. -/
  published : ((events.flatMap Event.published).map Prod.snd).Nodup
  committed : ((events.flatMap Event.published).map Prod.fst).Nodup
  /-- A session is revealed once, by a binder or by anybody else, whatever its salt. -/
  revealed : ∀ chainId, OnChain chainId events →
    ((events.flatMap Event.revealed).map (·.2.intent.identity)).Nodup
  /-- And opens one recourse. -/
  opened : ∀ chainId, OnChain chainId events →
    ((events.flatMap Event.opened).map (·.reveal.intent.identity)).Nodup
  /-- There are no recourses but these. -/
  recourses : ∀ key, (s.binder.recourses key).isOpen = true →
    key ∈ (events.flatMap Event.opened).map (·.envelope.core.session.sessionCommitment)
  /-- A source commitment is opened once, and so is an attestation, by whoever does it. -/
  disclosed : ((events.flatMap Event.sourced).map (revealedCommitment crypto d)).Nodup
  disclosedAttestations : ((events.flatMap Event.sourced).map revealedAttestation).Nodup
  /-- Both are in one recourse at most. -/
  sources : ((events.flatMap Event.opened).flatMap Binder.BindRequest.sources).Nodup
  attestations : ((events.flatMap Event.opened).flatMap Binder.BindRequest.attestations).Nodup
  consents : ((events.flatMap Event.opened).flatMap Binder.BindRequest.consents).Nodup

theorem deploy_distinct {genesis : Genesis} {world : W}
    (h : deploy crypto d genesis world = .ok s) : SessionsDistinct s.governance := by
  simp only [deploy, Governance.construct, bind_ok_iff, pure_ok_iff] at h
  obtain ⟨-, -, governance, ⟨-, -, rfl⟩, -, -, -, -, -, -, rfl⟩ := h
  exact ⟨by rintro key ⟨⟩, by rintro key _ ⟨⟩⟩

/-- A table that every event uses its keys of. -/
theorem Reaches.once {κ : Type} {table : System W → κ → Prop} {keys : Event W → List κ}
    {events : List (Event W)} (hreach : Reaches crypto env d events s)
    (huses : ∀ {event s s'}, Uses crypto d event s s' →
      Consumes (table s) (table s') (keys event)) : (events.flatMap keys).Nodup := by
  obtain ⟨genesis, world, s₀, hdeploy, hrun⟩ := hreach
  have hstep : ∀ s event s', SessionsDistinct s.governance →
      exec crypto env d s event = .ok s' →
      SessionsDistinct s'.governance ∧ Consumes (table s) (table s') (keys event) := by
    intro s event s' hdistinct hexec
    have hevent := exec_uses hdistinct hexec
    exact ⟨hevent.admitted.distinct, huses hevent⟩
  exact (run_consumes hstep (deploy_distinct hdeploy) hrun).nodup

/-- What is revealed is revealed by a call of the run. -/
theorem OnChain.revealed {chainId : ℕ} {events : List (Event W)} (h : OnChain chainId events)
    {reveal : Tx × SessionReveal} (hmem : reveal ∈ events.flatMap Event.revealed) :
    reveal.1.chainId = chainId := by
  obtain ⟨event, hevent, hreveal⟩ := List.mem_flatMap.mp hmem
  cases event with
  | outside world => exact nomatch hreveal
  | call tx call =>
      cases call with
      | resolveSession | bindRecourse =>
          obtain rfl := List.mem_singleton.mp hreveal
          exact h _ _ hevent
      | _ => exact nomatch hreveal

/-- **One authorization, once.** In a reachable system, whoever called what in whichever
order. -/
theorem one_shot_authority {events : List (Event W)} (h : Reaches crypto env d events s) :
    OneShotAuthority crypto d events s := by
  have haccepted : ∀ {κ : Type} {key : ResultCore → κ} {table : VerifierState → κ → Prop},
      (∀ {v v' cores}, Verifier.Accepts crypto v v' cores →
        Consumes (table v) (table v') (cores.map key)) →
      ((events.flatMap Event.accepted).map key).Nodup := by
    intro κ key table huses
    rw [List.map_flatMap]
    exact h.once fun hevent => huses hevent.accepted
  have hnullifiers : ((events.flatMap Event.revealed).map (revealedNullifier crypto d)).Nodup := by
    rw [List.map_flatMap]
    exact h.once fun hevent => hevent.admitted.opened
  have hrevealed : ∀ chainId, OnChain chainId events →
      ((events.flatMap Event.revealed).map (·.2.intent.identity)).Nodup := by
    intro chainId hchain
    -- On one chain the identity of a session decides its nullifier.
    have hnamed : (events.flatMap Event.revealed).map (revealedNullifier crypto d) =
        ((events.flatMap Event.revealed).map (·.2.intent.identity)).map fun identity =>
          crypto.hashWords [crypto.keccakText "mordant.session-nullifier/1", uintWord chainId,
            addressWord d.governance, identity.1, identity.2.1, identity.2.2.1,
            identity.2.2.2] := by
      rw [List.map_map]
      apply List.map_congr_left
      intro reveal hmem
      rw [← hchain.revealed hmem]
      rfl
    rw [hnamed] at hnullifiers
    exact hnullifiers.of_map _
  constructor
  case replay => exact haccepted Verifier.Accepts.replay
  case decision => exact haccepted Verifier.Accepts.decision
  case session => exact haccepted Verifier.Accepts.session
  case nullifier => exact haccepted Verifier.Accepts.nullifier
  case output => exact haccepted Verifier.Accepts.output
  case proof => exact haccepted Verifier.Accepts.proof
  case published =>
    rw [List.map_flatMap]
    exact h.once fun hevent => hevent.admitted.nullifiers
  case committed =>
    rw [List.map_flatMap]
    exact h.once fun hevent => hevent.admitted.commitments
  case revealed => exact hrevealed
  case opened =>
    intro chainId hchain
    refine List.Nodup.sublist ?_ (hrevealed chainId hchain)
    rw [List.map_flatMap, List.map_flatMap]
    apply List.Sublist.flatMap_right
    intro event _
    cases event with
    | outside world => exact .slnil
    | call tx call =>
        cases call with
        | bindRecourse => exact List.Sublist.refl _
        | _ => exact List.nil_sublist _
  case recourses =>
    intro key hopen
    obtain ⟨before, tx, request, after, rfl, hkey, -⟩ := h.recorded.recourse key hopen
    simp [Event.opened, hkey]
  case disclosed =>
    rw [List.map_flatMap]
    exact h.once fun hevent => hevent.revealed.commitments
  case disclosedAttestations =>
    rw [List.map_flatMap]
    exact h.once fun hevent => hevent.revealed.nonces
  case sources =>
    rw [List.flatMap_assoc]
    exact h.once fun hevent => hevent.bound.sources
  case attestations =>
    rw [List.flatMap_assoc]
    refine List.Nodup.sublist ?_ (h.once fun hevent => hevent.revealed.nonces)
    apply List.Sublist.flatMap_right
    intro event _
    cases event with
    | outside world => exact .slnil
    | call tx call =>
        cases call with
        | bindRecourse => exact List.Sublist.refl _
        | _ => exact List.nil_sublist _
  case consents =>
    rw [List.flatMap_assoc]
    exact h.once fun hevent => hevent.bound.consents

end

/-- The honest story uses nothing twice. -/
theorem honest_one_shot : ∃ t,
    OneShotAuthority Sample.crypto Sample.deployment (Sample.events Sample.honest) t := by
  obtain ⟨t, hreach⟩ := Sample.honest_reaches
  exact ⟨t, one_shot_authority hreach⟩

end Mordant.Match
