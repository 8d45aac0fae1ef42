/-
# What the quorum does not sign

The verifier checks three transcript fields and signs for none of them: the
attestation digest is over the result digest and a context derived from the
core, and the result commitment is over the core.  So whatever the quorum
accepted once it accepts with any well-formed transcript.
-/

import Mordant.Match.System

namespace Mordant.Match

open Evm Foundation

namespace Verifier

variable (crypto : Crypto) (self : Address)

/-- The checks of `acceptMatch` that do not read the transcript: the core, its
commitment and its session, the six identities, and the signatures over the
context the core itself determines. -/
def acceptCore (v : VerifierState) (g : GovernanceState) (tx : Tx) (core : ResultCore)
    (resultCommitment : Bytes32) (attestation : Bytes) : Except MatchError VerifierState := do
  checkResult crypto self v g tx core resultCommitment
  let v' ← consume crypto v core
  verifyAttestation crypto self v' tx core (recomputationContext crypto core) attestation
  pure v'

/-- The fields of a transcript a result could vouch for. -/
def SameTranscript (t₁ t₂ : RecomputationTranscript) : Prop :=
  t₁.transcriptCommitment = t₂.transcriptCommitment ∧
    t₁.operatorSetDigest = t₂.operatorSetDigest ∧
    t₁.recomputationQuorum = t₂.recomputationQuorum

variable {crypto self} {v : VerifierState} {g : GovernanceState} {tx : Tx} {core : ResultCore}
  {resultCommitment : Bytes32} {attestation : Bytes}

theorem assertTranscript_ok_iff {transcript : RecomputationTranscript} {u : Unit} :
    assertTranscript crypto v core transcript = .ok u ↔
      (transcript.transcriptCommitment ≠ 0 ∧ transcript.operatorSetDigest ≠ 0) ∧
        v.recomputationQuorum ≤ transcript.recomputationQuorum ∧
        transcript.contextDigest = recomputationContext crypto core := by
  simp only [assertTranscript, revertIf_bind_ok_iff, revertIf_ok_iff, not_or, not_not,
    BitVec.not_lt]

/-- **Acceptance splits.** An envelope is accepted when its transcript is well
formed and the rest of it is accepted without the transcript. -/
theorem acceptMatch_ok_iff {transcript : RecomputationTranscript}
    {result : Bytes32 × VerifierState} :
    acceptMatch crypto self v g tx ⟨core, resultCommitment, transcript⟩ attestation = .ok result ↔
      assertTranscript crypto v core transcript = .ok () ∧
        ∃ v', acceptCore crypto self v g tx core resultCommitment attestation = .ok v' ∧
          result = (resultCommitment, v') := by
  simp only [acceptMatch, acceptCore, bind_ok_iff, pure_ok_iff]
  constructor
  · rintro ⟨u, hcheck, u', htranscript, v', hconsume, u'', hverify, rfl⟩
    have hcontext := (assertTranscript_ok_iff.mp htranscript).2.2
    rw [hcontext] at hverify
    exact ⟨htranscript, v', ⟨u, hcheck, v', hconsume, u'', hverify, rfl⟩, rfl⟩
  · rintro ⟨htranscript, _, ⟨u, hcheck, v', hconsume, u'', hverify, rfl⟩, rfl⟩
    have hcontext := (assertTranscript_ok_iff.mp htranscript).2.2
    rw [← hcontext] at hverify
    exact ⟨u, hcheck, (), htranscript, v', hconsume, u'', hverify, rfl⟩

/-- The transcript with a given commitment that the verifier lets through. -/
def wellFormed (crypto : Crypto) (v : VerifierState) (core : ResultCore)
    (transcriptCommitment : Bytes32) : RecomputationTranscript where
  transcriptCommitment := transcriptCommitment
  operatorSetDigest := 1
  recomputationQuorum := v.recomputationQuorum
  contextDigest := recomputationContext crypto core

theorem wellFormed_ok {transcriptCommitment : Bytes32} (hne : transcriptCommitment ≠ 0) :
    assertTranscript crypto v core (wellFormed crypto v core transcriptCommitment) = .ok () := by
  rw [assertTranscript_ok_iff]
  have hoperators : (1 : Bytes32) ≠ 0 := by decide
  exact ⟨⟨hne, hoperators⟩, BitVec.le_refl _, rfl⟩

/-- **The transcript is not authenticated.** In any state of the verifier and the
registry, over one core, one commitment and one attestation, two accepted
envelopes are bound to agree on the transcript exactly when one of the checks
that do not read it fails, so that nothing is accepted at all. -/
theorem transcript_authenticated_iff (crypto : Crypto) (self : Address) (v : VerifierState)
    (g : GovernanceState) (tx : Tx) (core : ResultCore) (resultCommitment : Bytes32)
    (attestation : Bytes) :
    (∀ t₁ t₂ r₁ r₂,
      acceptMatch crypto self v g tx ⟨core, resultCommitment, t₁⟩ attestation = .ok r₁ →
      acceptMatch crypto self v g tx ⟨core, resultCommitment, t₂⟩ attestation = .ok r₂ →
      SameTranscript t₁ t₂) ↔
    ∃ error, acceptCore crypto self v g tx core resultCommitment attestation = .error error := by
  cases haccept : acceptCore crypto self v g tx core resultCommitment attestation with
  | error e =>
      refine ⟨fun _ => ⟨e, rfl⟩, fun _ t₁ t₂ r₁ r₂ h₁ _ => ?_⟩
      obtain ⟨-, v', haccepted, -⟩ := acceptMatch_ok_iff.mp h₁
      rw [haccept] at haccepted
      exact nomatch haccepted
  | ok v' =>
      refine ⟨fun hsame => ?_, fun ⟨e, herror⟩ => nomatch herror⟩
      have haccepted : ∀ commitment : Bytes32, commitment ≠ 0 →
          acceptMatch crypto self v g tx ⟨core, resultCommitment,
            wellFormed crypto v core commitment⟩ attestation = .ok (resultCommitment, v') :=
        fun commitment hne => acceptMatch_ok_iff.mpr ⟨wellFormed_ok hne, v', haccept, rfl⟩
      have hequal := hsame _ _ _ _ (haccepted 1 (by decide)) (haccepted 2 (by decide))
      exact absurd (show (1 : Bytes32) = 2 from hequal.1) (by decide)

/-- One attestation of the sample session is accepted with a reported quorum of
two and with one of sixty thousand. -/
theorem transcript_substituted :
    ∃ s r₁ r₂, Reaches Sample.crypto Sample.env Sample.deployment
        (Sample.preparation Sample.honest) s ∧
      acceptMatch Sample.crypto Sample.deployment.verifier s.verifier s.governance
        (Sample.tx Sample.deployment.binder 7) (Sample.envelope Sample.honest 2)
        (Sample.attestation Sample.honest) = .ok r₁ ∧
      acceptMatch Sample.crypto Sample.deployment.verifier s.verifier s.governance
        (Sample.tx Sample.deployment.binder 7) (Sample.envelope Sample.honest 60000)
        (Sample.attestation Sample.honest) = .ok r₂ ∧
      ¬ SameTranscript (Sample.envelope Sample.honest 2).transcript
        (Sample.envelope Sample.honest 60000).transcript := by
  obtain ⟨t, hreach⟩ := Sample.honest_reaches
  obtain ⟨s, result, hbefore, hbind⟩ := hreach.bind rfl
  simp only [Binder.bindRecourse, bind_ok_iff] at hbind
  obtain ⟨-, -, -, -, -, -, -, -, -, -, r₁, hfirst, -⟩ := hbind
  -- what was accepted with the lower quorum is accepted with any higher one
  obtain ⟨htranscript, v, hcore, -⟩ := acceptMatch_ok_iff.mp hfirst
  obtain ⟨hnamed, hquorum, hcontext⟩ := assertTranscript_ok_iff.mp htranscript
  have hmore : (2 : BitVec 16) ≤ 60000 := by decide
  have hsecond : assertTranscript Sample.crypto s.verifier (Sample.core Sample.honest)
      (Sample.transcript Sample.honest 60000) = .ok () :=
    assertTranscript_ok_iff.mpr ⟨hnamed, BitVec.le_trans hquorum hmore, hcontext⟩
  refine ⟨s, r₁, _, hbefore, hfirst, acceptMatch_ok_iff.mpr ⟨hsecond, v, hcore, rfl⟩, ?_⟩
  rintro ⟨-, -, hquorum⟩
  exact absurd (show (2 : BitVec 16) = 60000 from hquorum) (by decide)

end Verifier

end Mordant.Match
