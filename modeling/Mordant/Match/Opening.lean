/-
# What a committed bind establishes

One inversion lemma for each contract a bind goes through, in the order of the
calls.  Later arguments read the facts off `Opened` and never unfold a contract.
-/

import Mordant.Match.System

namespace Mordant.Match

open Evm Foundation

section

variable {crypto : Crypto} {self : Address} {r r' : SourceState} {issuers : IssuerState} {tx : Tx}
  {attestation : SourceAttestation} {issuerSignature : Bytes} {salt : Bytes32}
  {revealed : RevealedSource}

/-- A revealed source is the preimage that was committed, field by field, in the block it
reports. -/
theorem Sources.revealSource_ok
    (h : Sources.revealSource crypto self r issuers tx attestation issuerSignature salt =
      .ok (revealed, r')) :
    revealed.sourceRecordCommitment =
        Sources.sourceCommitmentOf crypto self tx attestation issuerSignature salt ∧
      revealed.assetCommitment = attestation.assetCommitment ∧
      (r.commitments revealed.sourceRecordCommitment).stamp =
        (true, revealed.committedInBlock) := by
  simp only [Sources.revealSource, bind_ok_iff, revertIf_ok_iff, pure_ok_iff, Prod.mk.injEq,
    Bool.not_eq_false] at h
  obtain ⟨-, -, -, hcommitted, -, -, -, -, -, -, -, -, -, -, ⟨signer, digest⟩, -, -, -, -, -, rfl,
    -⟩ := h
  exact ⟨rfl, rfl, Prod.ext hcommitted rfl⟩

end

section

variable {crypto : Crypto} {self : Address} {g g' : GovernanceState} {tx : Tx}
  {intent : SessionIntent} {salt : Bytes32} {signatures : InitiationSignatures}
  {session : ResolvedSession}

/-- The issuer signature of an opened session recovers to somebody. Nothing is
said about whom. -/
theorem Governance.resolveSession_issuer
    (h : Governance.resolveSession crypto self g tx intent salt signatures = .ok (session, g')) :
    crypto.recoverStrict (Governance.intentDigest crypto self tx intent) signatures.issuer =
      some session.issuerSigner := by
  simp only [Governance.resolveSession, bind_ok_iff, pure_ok_iff, Prod.mk.injEq] at h
  obtain ⟨-, -, -, -, -, -, -, -, -, -, -, -, -, -, ⟨controllerA, controllerB⟩, -, -, -,
    issuerSigner, hsigner, rfl, -⟩ := h
  simp only [Governance.initiationSigner, Governance.recover, bind_ok_iff, require_ok_iff]
    at hsigner
  obtain ⟨-, -, -, -, -, -, -, -, hissuer⟩ := hsigner
  exact hissuer

end

namespace Binder

variable {crypto : Crypto} {W : Type} {env : Externals W} {d : Deployment} {s s' : System W}
  {tx : Tx} {r : BindRequest}

/-- The facts of a committed bind that its later readers use. -/
structure Opened (crypto : Crypto) (env : Externals W) (d : Deployment) (s : System W) (tx : Tx)
    (r : BindRequest) (context : OpenContext) : Prop where
  policyId : r.envelope.core.policyId = d.policyId
  policyVersion : r.envelope.core.policyVersion = d.policyVersion
  session : ∃ governance, Governance.resolveSession crypto d.governance s.governance (calling d tx)
    r.reveal.intent r.reveal.salt r.reveal.signatures = .ok (context.session, governance)
  anchored : context.anchored.sourceRecordCommitment = Sources.sourceCommitmentOf crypto d.sources
      tx r.anchoredSource.attestation r.anchoredSource.issuerSignature r.anchoredSource.salt ∧
    context.anchored.assetCommitment = r.anchoredSource.attestation.assetCommitment
  counterparty : context.counterparty.sourceRecordCommitment =
    Sources.sourceCommitmentOf crypto d.sources tx r.counterpartySource.attestation
      r.counterpartySource.issuerSignature r.counterpartySource.salt
  compared : compare s.binder r.envelope.core context = .ok ()
  genuine : assertAnchorGenuine env s.world r.anchor context.anchored = .ok ()

theorem resolve_ok {context : OpenContext} (h : resolve crypto d s tx r = .ok (context, s')) :
    (∃ governance, Governance.resolveSession crypto d.governance s.governance (calling d tx)
      r.reveal.intent r.reveal.salt r.reveal.signatures = .ok (context.session, governance)) ∧
    (context.anchored.sourceRecordCommitment = Sources.sourceCommitmentOf crypto d.sources tx
        r.anchoredSource.attestation r.anchoredSource.issuerSignature r.anchoredSource.salt ∧
      context.anchored.assetCommitment = r.anchoredSource.attestation.assetCommitment) ∧
    context.counterparty.sourceRecordCommitment = Sources.sourceCommitmentOf crypto d.sources tx
      r.counterpartySource.attestation r.counterpartySource.issuerSignature
      r.counterpartySource.salt ∧
    s'.binder = s.binder ∧ s'.world = s.world := by
  simp only [resolve, bind_ok_iff, pure_ok_iff, Prod.mk.injEq] at h
  obtain ⟨⟨session, governance⟩, hsession, -, -, ⟨anchored, sources⟩, hanchored,
    ⟨counterparty, sources'⟩, hcounterparty, rfl, rfl⟩ := h
  have hopenedA := Sources.revealSource_ok hanchored
  have hopenedB := Sources.revealSource_ok hcounterparty
  exact ⟨⟨governance, hsession⟩, ⟨hopenedA.1, hopenedA.2.1⟩, hopenedB.1, rfl, rfl⟩

/-- **Inversion of `bindRecourse`.** -/
theorem bindRecourse_opened {result : Bytes32 × System W}
    (h : bindRecourse crypto env d s tx r = .ok result) :
    ∃ context, Opened crypto env d s tx r context := by
  simp only [bindRecourse, bind_ok_iff, revertIf_ok_iff, not_or, not_not] at h
  obtain ⟨-, -, -, ⟨hpolicyId, hpolicyVersion⟩, -, -, -, -, -, -, ⟨commitment, verifier⟩, -, -, -,
    -, -, -, -, s₂, hopen, -⟩ := h
  simp only [openRecourse, bind_ok_iff] at hopen
  obtain ⟨⟨context, s₃⟩, hresolve, _, hcompare, _, hgenuine, -⟩ := hopen
  obtain ⟨hsession, hanchored, hcounterparty, hbinder, hworld⟩ := resolve_ok hresolve
  simp only [hbinder, hworld] at hcompare hgenuine
  exact ⟨context, hpolicyId, hpolicyVersion, hsession, hanchored, hcounterparty, hcompare,
    hgenuine⟩

/-- Both revealed sources are the ones the result names. -/
theorem compare_ok {b : BinderState} {core : ResultCore} {context : OpenContext} {u : Unit}
    (h : compare b core context = .ok u) :
    context.anchored.sourceRecordCommitment = core.session.sourceRecordCommitmentA ∧
      context.counterparty.sourceRecordCommitment = core.session.sourceRecordCommitmentB := by
  simp only [compare, bind_ok_iff, revertIf_ok_iff, not_not] at h
  obtain ⟨-, hanchored, -, hcounterparty, -⟩ := h
  exact ⟨hanchored, hcounterparty⟩

/-- The anchor's commitment is the revealed one. -/
theorem assertAnchorGenuine_commitment {world : W} {anchor : Address} {revealed : RevealedSource}
    {u : Unit} (h : assertAnchorGenuine env world anchor revealed = .ok u) :
    env.assetCommitment world anchor = some revealed.assetCommitment := by
  simp only [assertAnchorGenuine, bind_ok_iff] at h
  obtain ⟨-, -, -, -, -, -, hidentity⟩ := h
  simp only [assertIdentity, getter, bind_ok_iff, revertIf_ok_iff, require_ok_iff,
    not_not] at hidentity
  obtain ⟨commitment, hcommitment, -, -, -, hequal, -⟩ := hidentity
  rw [hcommitment, hequal]

end Binder

end Mordant.Match
