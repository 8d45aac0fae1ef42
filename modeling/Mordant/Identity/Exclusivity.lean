/-
# Candidate sessions and exact ones

No session is both, in whatever order the two calls come, and a pre-commitment is
final.  Marking needs no authority: whoever marks a session first keeps every issuer
from pre-committing it.
-/

import Mordant.Identity.System
import Mordant.Match.OneShot

namespace Mordant.Identity

open Evm Foundation Match
open Function (update update_of_ne)

/-! ## What the two functions do -/

section

variable {crypto : Crypto} {self : Address} {r r' : SessionState} {issuers : IssuerState} {tx : Tx}
  {sessionId : Bytes32} {precommitment : ExactSessionPrecommitment} {signature : Bytes}

theorem markCandidateSession_ok_iff :
    Sessions.markCandidateSession r sessionId = .ok r' ↔
      sessionId ≠ 0 ∧ ¬ (r.precommitments sessionId).recorded = true ∧
      r' = { r with candidateSessions := update r.candidateSessions sessionId true } := by
  simp only [Sessions.markCandidateSession, bind_ok_iff, revertIf_ok_iff, exists_const,
    pure_ok_iff]
  constructor
  · rintro ⟨hsession, hopen, rfl⟩
    exact ⟨hsession, hopen, rfl⟩
  · rintro ⟨hsession, hopen, rfl⟩
    exact ⟨hsession, hopen, rfl⟩

/-- A complete pre-commitment for this registry and this moment, signed by the live
signer of its issuer at an epoch that is not retired. -/
structure Valid (crypto : Crypto) (contract : Address) (issuers : IssuerState) (tx : Tx)
    (precommitment : ExactSessionPrecommitment) (signature : Bytes) : Prop where
  chain : precommitment.chainId.toNat = tx.chainId
  registry : precommitment.registry = contract
  session_ne_zero : precommitment.sessionId ≠ 0
  asset_ne_zero : precommitment.strictAssetCommitment ≠ 0
  issuer_ne_zero : precommitment.issuerKeyId ≠ 0
  epoch_ne_zero : precommitment.identityEpoch ≠ 0
  nonce_ne_zero : precommitment.nonce ≠ 0
  unexpired : tx.timestamp ≤ precommitment.validUntil.toNat
  otherCandidate : ¬ (precommitment.supersedesCandidateSession ≠ 0 ∧
    precommitment.supersedesCandidateSession = precommitment.sessionId)
  signed : ∃ signer,
    crypto.recoverStrict (Sessions.digest crypto contract tx precommitment) signature =
        some signer ∧
      IssuerRegistry.requireAuthorized issuers precommitment.issuerKeyId signer
        precommitment.identityEpoch = .ok ()

/-- The session is not pre-committed, and the nonce is not used. -/
structure Fresh (r : SessionState) (precommitment : ExactSessionPrecommitment) : Prop where
  session : ¬ (r.precommitments precommitment.sessionId).recorded = true
  nonce : ¬ r.consumedNonce precommitment.issuerKeyId precommitment.nonce = true

/-- Exactly when a pre-commitment is accepted. -/
theorem precommitExactSession_ok_iff :
    Sessions.precommitExactSession crypto self r issuers tx precommitment signature = .ok r' ↔
      Valid crypto self issuers tx precommitment signature ∧ Fresh r precommitment ∧
        ¬ r.candidateSessions precommitment.sessionId = true ∧
        r' = precommitted r tx precommitment := by
  simp only [Sessions.precommitExactSession, bind_ok_iff, revertIf_ok_iff, exists_const,
    require_ok_iff, mapError_ok_iff, pure_ok_iff, not_or, not_not, not_lt]
  constructor
  · rintro ⟨⟨hchain, hregistry, hsession, hasset, hissuer, hepoch, hnonce⟩, hunexpired, hunmarked,
      hother, hopen, hunused, signer, hsigner, ⟨⟩, hauthorized, rfl⟩
    exact ⟨⟨hchain, hregistry, hsession, hasset, hissuer, hepoch, hnonce, hunexpired, hother,
      signer, hsigner, hauthorized⟩, ⟨hopen, hunused⟩, hunmarked, rfl⟩
  · rintro ⟨h, hfresh, hunmarked, rfl⟩
    obtain ⟨signer, hsigner, hauthorized⟩ := h.signed
    exact ⟨⟨h.chain, h.registry, h.session_ne_zero, h.asset_ne_zero, h.issuer_ne_zero,
      h.epoch_ne_zero, h.nonce_ne_zero⟩, h.unexpired, hunmarked, h.otherCandidate, hfresh.session,
      hfresh.nonce, signer, hsigner, (), hauthorized, rfl⟩

theorem isSessionPrecommitted_iff {commitment : Bytes32} :
    Sessions.isSessionPrecommitted r sessionId commitment = true ↔
      (r.precommitments sessionId).recorded = true ∧
        (r.precommitments sessionId).strictAssetCommitment = commitment ∧
        ¬ r.candidateSessions sessionId = true := by
  simp only [Sessions.isSessionPrecommitted, Bool.and_eq_true, beq_iff_eq, Bool.not_eq_true',
    Bool.not_eq_true, and_assoc]

end

/-! ## What an event does to the sessions -/

section

variable {W : Type} {crypto : Crypto} {env : Externals W} {d : Deployment} {s s' t : System W}
  {e : Event W} {events : List (Event W)}

/-- The nonce an event uses up in the session registry. -/
def Event.precommitNonce : Event W → List (Bytes32 × BitVec 256)
  | .call _ (.precommitExactSession precommitment _) =>
      [(precommitment.issuerKeyId, precommitment.nonce)]
  | _ => []

/-- An event marks a session. -/
def Event.Marks (sessionId : Bytes32) : Event W → Prop
  | .call _ (.markCandidateSession marked) => marked = sessionId
  | _ => False

/-- **Step.** An event marks a session, pre-commits one, or leaves the registry alone. -/
theorem exec_sessions (h : exec crypto env d s e = .ok s') :
    (s'.sessions = s.sessions ∧ e.precommitNonce = [] ∧ ∀ sessionId, ¬ e.Marks sessionId) ∨
      (∃ tx sessionId, e = .call tx (.markCandidateSession sessionId) ∧
        ¬ (s.sessions.precommitments sessionId).recorded = true ∧
        s'.sessions = { s.sessions with
          candidateSessions := update s.sessions.candidateSessions sessionId true }) ∨
      ∃ tx precommitment signature, e = .call tx (.precommitExactSession precommitment signature) ∧
        Fresh s.sessions precommitment ∧
        ¬ s.sessions.candidateSessions precommitment.sessionId = true ∧
        s'.sessions = precommitted s.sessions tx precommitment := by
  cases e with
  | outside world =>
      obtain rfl := pure_ok_iff.mp h
      exact .inl ⟨rfl, rfl, fun _ => id⟩
  | call tx call =>
      cases call with
      | registerIssuer | revokeIssuer | advanceEpoch | transferIssuerRegistry
      | renounceIssuerRegistry =>
          obtain ⟨_, -, rfl⟩ := System.withIssuers_ok_iff.mp h
          exact .inl ⟨rfl, rfl, fun _ => id⟩
      | setFacility | setCvaAdapter | setSettlementToken | transferFactory | renounceFactory =>
          obtain ⟨_, -, rfl⟩ := System.withFactory_ok_iff.mp h
          exact .inl ⟨rfl, rfl, fun _ => id⟩
      | createIdentityAnchoredVault =>
          obtain ⟨_, _, _, -, rfl⟩ := System.withVault_ok_iff.mp h
          exact .inl ⟨rfl, rfl, fun _ => id⟩
      | initialise | appendAmendment =>
          obtain ⟨_, -, rfl⟩ := System.withTerms_ok_iff.mp h
          exact .inl ⟨rfl, rfl, fun _ => id⟩
      | markCandidateSession sessionId =>
          obtain ⟨_, hcall, rfl⟩ := System.withSessions_ok_iff.mp h
          obtain ⟨-, hopen, rfl⟩ := markCandidateSession_ok_iff.mp hcall
          exact .inr (.inl ⟨tx, sessionId, rfl, hopen, rfl⟩)
      | precommitExactSession precommitment signature =>
          obtain ⟨_, hcall, rfl⟩ := System.withSessions_ok_iff.mp h
          obtain ⟨-, hfresh, hunmarked, rfl⟩ := precommitExactSession_ok_iff.mp hcall
          exact .inr (.inr ⟨tx, precommitment, signature, rfl, hfresh, hunmarked, rfl⟩)

/-- **Run.** No session is both a candidate and pre-committed. -/
theorem Reaches.exclusive (h : Reaches crypto env d events s) :
    ∀ sessionId, ¬ (s.sessions.candidateSessions sessionId = true ∧
      (s.sessions.precommitments sessionId).recorded = true) := by
  apply h.induct
  case hdeployed =>
    intro s hdeployed sessionId
    rw [hdeployed.sessions]
    rintro ⟨hmarked, -⟩
    exact nomatch hmarked
  case hstep =>
    intro s e s' hexclusive hexec sessionId
    rcases exec_sessions hexec with ⟨hsame, -⟩ | ⟨tx, marked, -, hopen, hafter⟩ |
      ⟨tx, precommitment, signature, -, hfresh, hunmarked, hafter⟩
    · rw [hsame]
      exact hexclusive sessionId
    · rw [hafter]
      by_cases hself : sessionId = marked
      · subst hself
        exact fun hboth => hopen hboth.2
      · simp only [update_of_ne hself]
        exact hexclusive sessionId
    · rw [hafter, precommitted]
      by_cases hself : sessionId = precommitment.sessionId
      · subst hself
        exact fun hboth => hunmarked hboth.1
      · simp only [update_of_ne hself]
        exact hexclusive sessionId

/-- **History.** The marked sessions are those that somebody marked. -/
theorem Reaches.marked_iff (h : Reaches crypto env d events s) :
    ∀ sessionId, s.sessions.candidateSessions sessionId = true ↔
      ∃ e ∈ events, e.Marks sessionId := by
  apply h.history
  case hdeployed =>
    intro s hdeployed sessionId
    rw [hdeployed.sessions]
    simp
  case hstep =>
    intro before e s s' hreach hmarked hexec sessionId
    simp only [List.mem_append, List.mem_singleton, or_and_right, exists_or, exists_eq_left,
      ← hmarked sessionId]
    rcases exec_sessions hexec with ⟨hsame, -, hquiet⟩ | ⟨tx, other, rfl, -, hafter⟩ |
      ⟨tx, precommitment, signature, rfl, -, -, hafter⟩
    · simp only [hsame, hquiet sessionId, or_false]
    · rw [hafter]
      by_cases hself : sessionId = other
      · subst hself
        simp [Event.Marks]
      · have hother : ¬ other = sessionId := fun hsame => hself hsame.symm
        simp [hself, Event.Marks, hother]
    · rw [hafter]
      simp [precommitted, Event.Marks]

/-- **Step.** A pre-commitment is final. -/
theorem exec_precommitment_kept (h : exec crypto env d s e = .ok s') {sessionId : Bytes32}
    (hrecorded : (s.sessions.precommitments sessionId).recorded = true) :
    s'.sessions.precommitments sessionId = s.sessions.precommitments sessionId := by
  rcases exec_sessions h with ⟨hsame, -⟩ | ⟨tx, marked, -, -, hafter⟩ |
    ⟨tx, precommitment, signature, -, hfresh, -, hafter⟩
  · rw [hsame]
  · rw [hafter]
  · have hother : sessionId ≠ precommitment.sessionId := by
      rintro rfl
      exact hfresh.session hrecorded
    rw [hafter, precommitted]
    exact update_of_ne hother _ _

/-- **Run.** -/
theorem run_precommitment_kept (h : run (exec crypto env d) s events = .ok t)
    {sessionId : Bytes32} (hrecorded : (s.sessions.precommitments sessionId).recorded = true) :
    t.sessions.precommitments sessionId = s.sessions.precommitments sessionId := by
  let P : System W → Prop := fun u =>
    u.sessions.precommitments sessionId = s.sessions.precommitments sessionId
  refine run_always (P := P) ?_ h rfl
  intro u e u' hkept hexec
  have hstill : (u.sessions.precommitments sessionId).recorded = true := by
    rw [hkept]
    exact hrecorded
  exact (exec_precommitment_kept hexec hstill).trans hkept

/-- A nonce of an issuer was used by a pre-commitment. -/
def SessionState.Used (r : SessionState) (key : Bytes32 × BitVec 256) : Prop :=
  r.consumedNonce key.1 key.2 = true

/-- **Step.** -/
theorem exec_precommitNonce (h : exec crypto env d s e = .ok s') :
    Consumes s.sessions.Used s'.sessions.Used e.precommitNonce := by
  rcases exec_sessions h with ⟨hsame, hnone, -⟩ | ⟨tx, sessionId, rfl, -, hafter⟩ |
    ⟨tx, precommitment, signature, rfl, hfresh, -, hafter⟩
  · rw [hnone, hsame]
    exact .refl _
  · rw [hafter]
    exact .refl _
  · rw [hafter]
    exact Consumes.setNested hfresh.nonce

/-- **Run.** No nonce of an issuer is used twice. -/
theorem Reaches.precommitNonces (h : Reaches crypto env d events s) :
    (events.flatMap Event.precommitNonce).Nodup := by
  obtain ⟨genesis, world, s₀, -, hrun⟩ := h
  have hstep : ∀ s e s', True → exec crypto env d s e = .ok s' →
      True ∧ Consumes s.sessions.Used s'.sessions.Used e.precommitNonce :=
    fun s e s' _ hexec => ⟨trivial, exec_precommitNonce hexec⟩
  exact (run_consumes hstep trivial hrun).nodup

end

/-! ## Sessions stay apart -/

section

variable {W : Type} (crypto : Crypto) (env : Externals W) (d : Deployment)

/-- What a reader of the registry relies on, and when an issuer gets its session
pre-committed. -/
structure SessionsApart (events : List (Event W)) (s : System W) : Prop where
  exclusive : ∀ sessionId, ¬ (s.sessions.candidateSessions sessionId = true ∧
    (s.sessions.precommitments sessionId).recorded = true)
  final : ∀ later t sessionId commitment, run (exec crypto env d) s later = .ok t →
    Sessions.isSessionPrecommitted s.sessions sessionId commitment = true →
    ∀ other, Sessions.isSessionPrecommitted t.sessions sessionId other = true ↔ other = commitment
  noncesOnce : (events.flatMap Event.precommitNonce).Nodup
  accepted : ∀ tx precommitment signature,
    Valid crypto d.sessionRegistry s.issuers tx precommitment signature →
    Fresh s.sessions precommitment →
    ((∃ s', exec crypto env d s (.call tx (.precommitExactSession precommitment signature)) =
      .ok s') ↔ ∀ e ∈ events, ¬ e.Marks precommitment.sessionId)

variable {crypto env d}

/-- **Candidate and exact sessions never mix.** In every run: no session is both, a
pre-committed session stays so for its one commitment, no nonce is used twice, and a
valid and fresh pre-commitment is accepted exactly when nobody marked its session. -/
theorem sessions_apart {events : List (Event W)} {s : System W}
    (hreach : Reaches crypto env d events s) : SessionsApart crypto env d events s := by
  constructor
  case exclusive => exact hreach.exclusive
  case final =>
    intro later t sessionId commitment hrun hprecommitted other
    obtain ⟨hrecorded, rfl, -⟩ := isSessionPrecommitted_iff.mp hprecommitted
    have hkept := run_precommitment_kept hrun hrecorded
    have hstill : (t.sessions.precommitments sessionId).recorded = true := by
      rw [hkept]
      exact hrecorded
    have hunmarked : ¬ t.sessions.candidateSessions sessionId = true := fun hmarked =>
      (hreach.append hrun).exclusive sessionId ⟨hmarked, hstill⟩
    rw [isSessionPrecommitted_iff, hkept]
    constructor
    · rintro ⟨-, hsame, -⟩
      exact hsame.symm
    · rintro rfl
      exact ⟨hrecorded, rfl, hunmarked⟩
  case noncesOnce => exact hreach.precommitNonces
  case accepted =>
    intro tx precommitment signature hvalid hfresh
    have hmarked := hreach.marked_iff precommitment.sessionId
    simp only [exec, Call.perform, System.withSessions_ok_iff, precommitExactSession_ok_iff]
    constructor
    · rintro ⟨_, _, ⟨-, -, hunmarked, -⟩, -⟩ e hmem hmarks
      exact hunmarked (hmarked.mpr ⟨e, hmem, hmarks⟩)
    · intro hquiet
      refine ⟨_, _, ⟨hvalid, hfresh, ?_, rfl⟩, rfl⟩
      intro hmark
      obtain ⟨e, hmem, hmarks⟩ := hmarked.mp hmark
      exact hquiet e hmem hmarks

end

namespace Sample

open Match.Sample (crypto sign tx)

/-- The pre-commitment of one session by the first issuer. -/
def precommitmentA : ExactSessionPrecommitment where
  chainId := 1
  registry := deployment.sessionRegistry
  sessionId := 0x99
  strictAssetCommitment := 11
  equivalenceOf := 0
  supersedesCandidateSession := 0x98
  issuerKeyId := IssuerRegistry.issuerKeyIdFor crypto issuerA
  identityEpoch := 1
  validUntil := 100
  nonce := 5

/-- Its signature. -/
def precommitSignatureA : Bytes :=
  sign issuerA (Sessions.digest crypto deployment.sessionRegistry (tx issuerA 7) precommitmentA)

/-- A session is marked before. -/
def markedBy (outsider : Address) (sessionId : Bytes32) : List (Event Unit) :=
  preparation 1 ++ [.call (tx outsider 6) (.markCandidateSession sessionId)]

/-- What the issuer signed is valid and fresh. -/
def precommittable (s : System Unit) : Bool :=
  decide (crypto.recoverStrict (Sessions.digest crypto deployment.sessionRegistry (tx issuerA 7)
      precommitmentA) precommitSignatureA = some issuerA ∧
    (IssuerRegistry.requireAuthorized s.issuers precommitmentA.issuerKeyId issuerA
      precommitmentA.identityEpoch).toBool = true ∧
    ¬ (s.sessions.precommitments precommitmentA.sessionId).recorded = true ∧
    ¬ s.sessions.consumedNonce precommitmentA.issuerKeyId precommitmentA.nonce = true)

theorem precommittable_valid {s : System Unit} (h : precommittable s = true) :
    Valid crypto deployment.sessionRegistry s.issuers (tx issuerA 7) precommitmentA
      precommitSignatureA ∧ Fresh s.sessions precommitmentA := by
  obtain ⟨hsigned, hlive, hopen, hunused⟩ := of_decide_eq_true h
  obtain ⟨⟨⟩, hauthorized⟩ := toBool_eq_true_iff.mp hlive
  have hissuer : precommitmentA.issuerKeyId ≠ 0 := by decide +kernel
  have hother : precommitmentA.supersedesCandidateSession ≠ precommitmentA.sessionId := by decide
  exact ⟨⟨rfl, rfl, by decide, by decide, hissuer, by decide, by decide, by decide,
    fun hboth => hother hboth.2, issuerA, hsigned, hauthorized⟩, ⟨hopen, hunused⟩⟩

end Sample

/-- An outsider, neither the issuer nor a party, decides that a session is a candidate:
the issuer's valid and fresh pre-commitment is refused. -/
theorem precommitment_not_always : ¬ ∀ (parties : Bytes32 → List Address)
    (events : List (Event Unit)) (s : System Unit) (tx : Tx)
    (precommitment : ExactSessionPrecommitment) (signature : Bytes),
    Reaches Match.Sample.crypto Sample.env Sample.deployment events s →
    Valid Match.Sample.crypto Sample.deployment.sessionRegistry s.issuers tx precommitment
      signature → Fresh s.sessions precommitment →
    (∀ tx', .call tx' (.markCandidateSession precommitment.sessionId) ∈ events →
      tx'.sender ≠ (s.issuers.issuers precommitment.issuerKeyId).signer ∧
        tx'.sender ∉ parties precommitment.sessionId) →
    ∃ s', exec Match.Sample.crypto Sample.env Sample.deployment s
      (.call tx (.precommitExactSession precommitment signature)) = .ok s' := by
  intro hclaim
  have hcommits : (Sample.outcome (Sample.markedBy 0x400 0x99)).toOption.any (fun s =>
      Sample.precommittable s && decide (
        (s.issuers.issuers Sample.precommitmentA.issuerKeyId).signer = Sample.issuerA ∧
        (exec Match.Sample.crypto Sample.env Sample.deployment s
          (.call (Match.Sample.tx Sample.issuerA 7) (.precommitExactSession
            Sample.precommitmentA Sample.precommitSignatureA))).toBool = false)) = true := by
    decide +kernel
  obtain ⟨s, hreach, htest⟩ := Sample.reaches _ hcommits
  obtain ⟨hready, hrest⟩ := Bool.and_eq_true_iff.mp htest
  obtain ⟨hsigner, hrefused⟩ := of_decide_eq_true hrest
  obtain ⟨hvalid, hfresh⟩ := Sample.precommittable_valid hready
  have haccepted := hclaim (fun _ => [Sample.buyer, Sample.treasury]) _ s _ _ _ hreach hvalid
    hfresh ?_
  · rw [← toBool_eq_true_iff, hrefused] at haccepted
    exact nomatch haccepted
  · intro tx' hmem
    rw [hsigner]
    simp only [Sample.markedBy, Sample.preparation, List.cons_append, List.nil_append,
      List.mem_cons, Event.call.injEq, reduceCtorEq, and_false, false_or, List.not_mem_nil,
      or_false] at hmem
    rw [hmem.1]
    decide

/-- Another session's mark does no harm. -/
theorem sessions_apart_marked : ∃ s,
    SessionsApart Match.Sample.crypto Sample.env Sample.deployment
      (Sample.markedBy 0x400 0x98) s := by
  have hcommits : (Sample.outcome (Sample.markedBy 0x400 0x98)).toOption.any (fun _ => true) =
      true := by decide +kernel
  obtain ⟨s, hreach, -⟩ := Sample.reaches _ hcommits
  exact ⟨s, sessions_apart hreach⟩

end Mordant.Identity
