/-
# What the signed intent is worth

Both controllers and the issuer sign an intent before a session exists.  The
binder opens it and then compares the revealed sources and the anchor with the
quorum-signed result, never with the intent.  So what the fourth version's
binder enforced holds of a bind exactly when the arguments happen to agree.
-/

import Mordant.Match.Opening

namespace Mordant.Match

open Evm Foundation

section

variable {W : Type}

/-- The intent agrees with what is bound: the two revealed source records, the
anchor's asset, and the binder's policy. -/
structure RespectsIntent (crypto : Crypto) (env : Externals W) (d : Deployment) (s : System W)
    (tx : Tx) (r : Binder.BindRequest) : Prop where
  sourceA : r.reveal.intent.sourceRecordCommitmentA = Sources.sourceCommitmentOf crypto d.sources
    tx r.anchoredSource.attestation r.anchoredSource.issuerSignature r.anchoredSource.salt
  sourceB : r.reveal.intent.sourceRecordCommitmentB = Sources.sourceCommitmentOf crypto d.sources
    tx r.counterpartySource.attestation r.counterpartySource.issuerSignature
    r.counterpartySource.salt
  asset : env.assetCommitment s.world r.anchor = some r.reveal.intent.strictAssetCommitmentA
  policyId : r.reveal.intent.policyId = d.policyId
  policyVersion : r.reveal.intent.policyVersion = d.policyVersion

/-- The arguments of a bind state the same facts twice: in the intent, and in the
result core or the anchored attestation. -/
structure Consistent (r : Binder.BindRequest) : Prop where
  sourceA : r.reveal.intent.sourceRecordCommitmentA =
    r.envelope.core.session.sourceRecordCommitmentA
  sourceB : r.reveal.intent.sourceRecordCommitmentB =
    r.envelope.core.session.sourceRecordCommitmentB
  asset : r.reveal.intent.strictAssetCommitmentA = r.anchoredSource.attestation.assetCommitment
  policyId : r.reveal.intent.policyId = r.envelope.core.policyId
  policyVersion : r.reveal.intent.policyVersion = r.envelope.core.policyVersion

variable {crypto : Crypto} {env : Externals W} {d : Deployment} {s : System W} {tx : Tx}
  {r : Binder.BindRequest}

/-- A committed bind ties every fact to the core, so agreement with the intent is
agreement of the arguments. -/
theorem Binder.Opened.respectsIntent_iff {context : Binder.OpenContext}
    (h : Binder.Opened crypto env d s tx r context) :
    RespectsIntent crypto env d s tx r ↔ Consistent r := by
  obtain ⟨hcoreA, hcoreB⟩ := Binder.compare_ok h.compared
  have hsourceA := h.anchored.1.symm.trans hcoreA
  have hsourceB := h.counterparty.symm.trans hcoreB
  have hasset := Binder.assertAnchorGenuine_commitment h.genuine
  rw [h.anchored.2] at hasset
  constructor
  · intro hrespects
    have hstrict : some r.anchoredSource.attestation.assetCommitment =
        some r.reveal.intent.strictAssetCommitmentA := hasset.symm.trans hrespects.asset
    exact
      { sourceA := hrespects.sourceA.trans hsourceA
        sourceB := hrespects.sourceB.trans hsourceB
        asset := (Option.some.inj hstrict).symm
        policyId := hrespects.policyId.trans h.policyId.symm
        policyVersion := hrespects.policyVersion.trans h.policyVersion.symm }
  · intro hconsistent
    exact
      { sourceA := hconsistent.sourceA.trans hsourceA.symm
        sourceB := hconsistent.sourceB.trans hsourceB.symm
        asset := by rw [hasset, hconsistent.asset]
        policyId := hconsistent.policyId.trans h.policyId
        policyVersion := hconsistent.policyVersion.trans h.policyVersion }

/-- **A bind respects the signed intent exactly when its arguments agree.** In
every run, for every bind in it, in the system that bind was made in. -/
theorem bind_respects_intent_iff {events before after : List (Event W)} {t : System W}
    (hreach : Reaches crypto env d events t)
    (hsplit : events = before ++ .call tx (.bindRecourse r) :: after) :
    ∃ s result, Reaches crypto env d before s ∧
      Binder.bindRecourse crypto env d s tx r = .ok result ∧
      (RespectsIntent crypto env d s tx r ↔ Consistent r) := by
  obtain ⟨s, result, hbefore, hbind⟩ := hreach.bind hsplit
  obtain ⟨context, hopened⟩ := Binder.bindRecourse_opened hbind
  exact ⟨s, result, hbefore, hbind, hopened.respectsIntent_iff⟩

/-- The honest story respects its intent. -/
theorem honest_bind_respects_intent :
    ∃ s, Reaches Sample.crypto Sample.env Sample.deployment (Sample.preparation Sample.honest) s ∧
      RespectsIntent Sample.crypto Sample.env Sample.deployment s (Sample.tx 0x400 7)
        (Sample.request Sample.honest) := by
  obtain ⟨t, hreach⟩ := Sample.honest_reaches
  obtain ⟨s, -, hbefore, -, hiff⟩ := bind_respects_intent_iff hreach rfl
  have hconsistent : Consistent (Sample.request Sample.honest) :=
    { sourceA := rfl
      sourceB := rfl
      asset := rfl
      policyId := rfl
      policyVersion := rfl }
  exact ⟨s, hbefore, hiff.mpr hconsistent⟩

/-- A story whose signed intent names other sources, another asset and another
policy. -/
def Sample.mismatched : Sample.Story :=
  { Sample.honest with
    sourceRecordCommitmentA := 0x901
    sourceRecordCommitmentB := 0x902
    strictAssetCommitmentA := 0x903
    policyId := 0x904
    policyVersion := 9 }

/-- It is bound nevertheless. -/
theorem mismatched_intent_binds :
    ∃ s result,
      Reaches Sample.crypto Sample.env Sample.deployment (Sample.preparation Sample.mismatched) s ∧
      Binder.bindRecourse Sample.crypto Sample.env Sample.deployment s (Sample.tx 0x400 7)
        (Sample.request Sample.mismatched) = .ok result ∧
      ¬ RespectsIntent Sample.crypto Sample.env Sample.deployment s (Sample.tx 0x400 7)
        (Sample.request Sample.mismatched) := by
  obtain ⟨t, hreach⟩ := Sample.reaches Sample.mismatched (by decide +kernel)
  obtain ⟨s, result, hbefore, hbind⟩ := hreach.bind rfl
  refine ⟨s, result, hbefore, hbind, ?_⟩
  intro hrespects
  exact absurd (show (0x904 : Bytes32) = 0x51 from hrespects.policyId) (by decide)

end

end Mordant.Match
